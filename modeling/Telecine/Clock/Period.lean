import Telecine.Clock.Time

/-! Half-open spans of content time, and the test that a list of them divides a film: no gap, no
overlap, nothing empty. -/
namespace Telecine

structure Period where
  start : Time
  stop : Time
  deriving DecidableEq, Repr

namespace Period

def duration (p : Period) : Checked Time := p.stop.sub p.start

def contains (p : Period) (t : Time) : Bool := p.start.ticks ≤ t.ticks && t.ticks < p.stop.ticks

def isEmpty (p : Period) : Bool := p.stop.ticks ≤ p.start.ticks

def contiguous : List Period → Bool
  | p :: q :: rest => p.stop = q.start && contiguous (q :: rest)
  | _ => true

def partition (periods : List Period) (length : Time) : Bool :=
  match periods with
  | [] => length = Time.zero
  | first :: _ =>
    first.start = Time.zero && !periods.any isEmpty && contiguous periods &&
      periods.getLast?.map stop = some length

end Period
end Telecine
