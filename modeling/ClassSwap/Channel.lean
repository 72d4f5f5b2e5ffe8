import ClassSwap.Channel.Lane

namespace ClassSwap

structure Channel where
  patience : Duration
  nextId : RequestId := 1
  lanes : Table Target Lane := []

namespace Channel

def lane (c : Channel) (t : Target) : Lane := (c.lanes.get? t).getD {}

def standing (c : Channel) (t : Target) : Standing := (c.lane t).standing

def step (c : Channel) (t : Target) (e : LaneEvent) : Channel :=
  let lane := c.lane t
  { c with
    nextId := if e = .grant && lane.takesNumber then c.nextId + 1 else c.nextId
    lanes := c.lanes.put t (lane.step t c.patience c.nextId e) }

/-- A run: events on targets, one after the other. -/
def run (c : Channel) (events : List (Target × LaneEvent)) : Channel :=
  events.foldl (fun c e => c.step e.1 e.2) c

theorem lane_step_self (c : Channel) (t : Target) (e : LaneEvent) :
    (c.step t e).lane t = (c.lane t).step t c.patience c.nextId e := by
  simp [step, lane]

theorem lane_step_of_ne {t other : Target} (c : Channel) (e : LaneEvent) (h : other ≠ t) :
    (c.step t e).lane other = c.lane other := by
  simp [step, lane, Table.get?_put_of_ne, h]

end Channel

end ClassSwap
