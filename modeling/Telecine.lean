import Telecine.Main
import Telecine.Host.Machine
import Telecine.Throughput
import Telecine.Proofs.Lookahead.ClosedForm
import Telecine.Proofs.Lookahead.Schedules
import Telecine.Proofs.Export.Delivered
import Telecine.Proofs.Transfer.Departure
import Telecine.Proofs.Transfer.Stops
import Telecine.Proofs.Transfer.Parts
import Telecine.Proofs.Transfer.Shown
import Telecine.Proofs.Transfer.Conduct
import Telecine.Proofs.Transfer.Orderly
import Telecine.Proofs.Transfer.Astray
import Telecine.Proofs.Transfer.Ends
import Telecine.Proofs.Export.Names
import Telecine.Proofs.Export.Opened
import Telecine.Proofs.Export.SoundLength
import Telecine.Proofs.Lookahead.Faithful
import Telecine.Proofs.Export.Shortfall
import Telecine.Proofs.Export.Lifetime
import Telecine.Proofs.Film.Division
import Telecine.Proofs.Film.Arithmetic
import Telecine.Proofs.Export.Flushed
import Telecine.Proofs.Media.CardStock
import Telecine.Proofs.Transfer.Watched
import Telecine.Proofs.Export.Preparation
import Telecine.Proofs.Transfer.Pace
import Telecine.Proofs.Transfer.Eyes
import Telecine.Proofs.Lookahead.Blocks
import Telecine.Proofs.Film.Stored
import Telecine.Proofs.CommandLine.NewFilms
import Telecine.Proofs.Media.CardPasses
import Telecine.Proofs.Throughput.Windows
import Telecine.Proofs.Text.Folders
import Telecine.Proofs.Export.Titles
import Telecine.Proofs.Media.Overwriting
