import AllowPolicy.Journal
import AllowPolicy.Decimal.Shortest

namespace AllowPolicy

/-- The switch that turns the rules on and off in turn, for testing. -/
structure Toggle (τ : Type) where
  enabled : Bool
  interval : τ
  /-- The moment of the next flip, once one is scheduled. -/
  next : Option τ := none
  stopped : Bool := false
  firings : Nat := 0
  deriving DecidableEq, Repr

/-- Where a toggle stands: how it is reached in the state around it, what the time is there, and
    how a flip is scheduled and announced there. -/
structure Toggle.Site (σ τ : Type) where
  toggle : σ → Toggle τ
  put : Toggle τ → σ → σ
  now : σ → τ
  schedule : τ → Act σ Unit
  announce : Act σ Unit

namespace Toggle

/-- A toggle for a positive interval. -/
def make (interval : Float) (enabled : Bool) : Outcome (Toggle Float) :=
  if interval ≤ 0 then
    .error (.badValue ("interval must be positive, got " ++ Decimal.shortest interval))
  else .ok { enabled, interval }

/-- The other position of the switch. -/
def flip {τ : Type} (toggle : Toggle τ) : Toggle τ := { toggle with enabled := !toggle.enabled }

variable {σ τ : Type} [Add τ]

namespace Site

def update (site : Site σ τ) (change : Toggle τ → Toggle τ) : Act σ Unit :=
  modify fun state => site.put (change (site.toggle state)) state

/-- Schedules the next flip one interval from now. -/
def scheduleNext (site : Site σ τ) : Act σ τ := do
  let state ← get
  let moment := site.now state + (site.toggle state).interval
  site.update fun toggle => { toggle with next := some moment }
  site.schedule moment
  pure moment

/-- Starts to flip, also after a stop, and tells when the first flip is due. -/
def start (site : Site σ τ) : Act σ τ := do
  site.update fun toggle => { toggle with stopped := false }
  site.scheduleNext

def stop (site : Site σ τ) : Act σ Unit :=
  site.update fun toggle => { toggle with stopped := true }

def flipRecord (toggle : Toggle τ) : String :=
  "Rules " ++ (if toggle.enabled then "enabled" else "disabled") ++
    " (firing " ++ toString toggle.firings ++ ")"

/-- Flips, tells everybody and schedules the next flip. A stopped toggle does nothing. -/
def fire (site : Site σ τ) : Act σ Unit := do
  if (site.toggle (← get)).stopped then pure ()
  else
    site.update fun toggle => { toggle.flip with firings := toggle.firings + 1 }
    log .info (flipRecord (site.toggle (← get)))
    site.announce
    let _ ← site.scheduleNext
    pure ()

end Site

end Toggle

end AllowPolicy
