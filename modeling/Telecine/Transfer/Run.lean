import Telecine.Transfer.Basic

/-! How a transfer goes. Each tick takes the pictures of one frame and then one frame's length of
sound, and sends them to the set of the reel that the tick lies in; after the last tick every file is
finished. The first failure ends the run, and nothing is finished then. -/
namespace Telecine.Transfer

structure Summary where
  ticks : Nat
  reels : Nat
  outputs : List Path
  dropped : Nat
  damaged : Nat
  underruns : Nat
  deriving DecidableEq, Repr

abbrev Act := ExceptT Halt (Talk Status Request Reply)

def ask (request : Request) : Act (Reply request) := ExceptT.lift (Talk.ask request)

def change (act : Status → Status) : Act Unit := ExceptT.lift (Talk.change act)

def fail {α : Type} (failure : Failure) : Act α := throw (.failed failure)

def known {α : Type} (value : Except Halt α) : Act α := ExceptT.mk (pure value)

def checked {α : Type} (value : Checked α) : Act α := known (Halt.ofChecked value)

/-- Why there is no picture: where the decoder died, with the failure it left. -/
def noPicture {α : Type} (outage : Outage) : Act α := do
  let cause : Option Failure ← if outage = .died then ask .trouble else pure none
  let reason := match cause with
    | some failure => outage.message ++ ": " ++ failure.message
    | none => outage.message
  fail (.noPicture outage.code reason)

def deliver (outlet : Outlet) (delivery : Delivery) : Talk Status Request Reply (Except Halt Unit) :=
  Talk.ask (Request.deliver outlet delivery)

def sendAll (deliveries : List (Outlet × Delivery)) : Act Unit :=
  ExceptT.mk (FileSet.sendAll deliver deliveries)

def dispatch (set : FileSet) (delivery : Delivery) : Act (List (Outlet × Delivery)) :=
  match set.dispatch delivery with
  | .ok deliveries => pure deliveries
  | .error failure => fail failure

def sendPicture (set : FileSet) (picture : Picture) : Act Unit := do
  change fun s => if picture.damaged then { s with damaged := s.damaged + 1 } else s
  match ← dispatch set (.picture picture) with
  | [] => change fun s => { s with dropped := s.dropped + 1 }
  | deliveries => sendAll deliveries

def passPicture (set : FileSet) : Act Unit := do
  let answer : Except Outage Picture ← ask .picture
  match answer with
  | .error outage => noPicture outage
  | .ok picture => sendPicture set picture

def passPictures (set : FileSet) : (count : Nat) → Act Unit
  | 0 => pure ()
  | count + 1 => do
    passPicture set
    passPictures set count

def passSound (plan : Plan) (soundFrames : Nat) (set : FileSet) : Act Unit := do
  let size := plan.soundChannels * soundFrames
  let (samples, underrun) ← checked (← ask (.sound soundFrames size))
  change fun s => if underrun then { s with underruns := s.underruns + 1 } else s
  let sound ← checked (Sound.deinterleave plan.soundChannels soundFrames samples.val)
  sendAll (← dispatch set (.sound sound))

/-- The reel that `time` lies in: `reel` or the one after it. A single set takes all reels. -/
def reelAt (t : Transfer) (reel : Nat) (time : Time) : Except Halt Nat :=
  if t.sets.length ≤ 1 then .ok reel
  else match t.plan.reels[reel]? with
    | none => .error (.fault .outOfBounds)
    | some period =>
      if period.contains time then .ok reel
      else match t.plan.reels[reel + 1]? with
        | none => broken ("reel cursor ran past the last reel at " ++ time.text)
        | some next =>
          if t.sets.length ≤ reel + 1 then
            broken ("no encoder set for reel " ++ toString (reel + 2))
          else if next.contains time then .ok (reel + 1)
          else broken ("no reel contains " ++ time.text)
where
  broken (message : String) : Except Halt Nat := .error (.failed (.internal message))

def setOf (t : Transfer) (reel : Nat) : Except Halt FileSet := match t.sets[reel]? with
  | some set => .ok set
  | none => .error (.fault .outOfBounds)

def picturesPerTick (plan : Plan) : Nat := if plan.stereoscopic then 2 else 1

def tick (t : Transfer) (duration : Time) (soundFrames reel : Nat) (time : Time) :
    Act (Nat × Time) := do
  let stop : Bool ← ask .interrupted
  if stop then fail .cancelled
  let reel ← known (t.reelAt reel time)
  let set ← known (t.setOf reel)
  passPictures set (picturesPerTick t.plan)
  let next ← checked (time.add duration)
  change fun s => { s with time := next }
  let status : Status ← ExceptT.lift Talk.look
  let _ ← ask (.progress status.progress)
  let _ ← ask .nudge
  passSound t.plan soundFrames set
  return (reel, next)

def ticks (t : Transfer) (duration : Time) (soundFrames : Nat) :
    (limit reel : Nat) → (time : Time) → (count : Nat) → Act Nat
  | limit, reel, time, count =>
    if time.ticks < t.plan.length.ticks then
      match limit with
      | 0 => throw .limit
      | limit + 1 => do
        let (reel, time) ← t.tick duration soundFrames reel time
        ticks t duration soundFrames limit reel time (count + 1)
    else pure count

def finishAll : List FileSet → Act Unit
  | [] => pure ()
  | set :: rest => do
    sendAll (← dispatch set .finish)
    finishAll rest

/-- The whole of a run. A failure that the source put off comes out when all files are finished. -/
def play (t : Transfer) (limit : Nat) : Act Summary := do
  if t.started then fail (.internal "transcoder run more than once")
  let duration ← checked t.plan.rates.pictureDuration
  let soundFrames ← checked t.plan.rates.soundPerPicture
  checked (reserve (t.plan.soundChannels * soundFrames) Sound.sampleSize)
  checked (reserve t.plan.soundChannels Sound.channelSize)
  let _ ← ask (.stage "Encoding")
  let count ← t.ticks duration soundFrames limit 0 Time.zero 0
  finishAll t.sets
  change fun s => { s with finished := true }
  let putOff : Option Failure ← ask .trouble
  if let some failure := putOff then fail failure
  let status : Status ← ExceptT.lift Talk.look
  return ⟨count, t.sets.length, t.outputs, status.dropped, status.damaged, status.underruns⟩

def dialogue (t : Transfer) (limit : Nat) :
    Dialogue Status Request Reply (Except Halt Summary) :=
  ExceptT.run (t.play limit) t.status

def run {m : Type → Type} [Monad m] (t : Transfer) (limit : Nat) (surroundings : Surroundings m) :
    m (Except Halt Summary × Transfer) := do
  let (result, status) ← (t.dialogue limit).run surroundings.answer
  return (result, { t with status, started := true })

end Telecine.Transfer
