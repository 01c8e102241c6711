import CountedHandles.Event
import Mathlib.Data.Finset.Card

/-!
# Ledgers

A referent learns about its handles from the calls that it receives and from nothing else. A ledger
is all that can be learned in this way: a count and the handles that are attached. A call is in
order if it fits the ledger, and calls that are in order keep the ledger balanced: every attached
handle is counted, and at most one handle is counted that is not attached.
-/

namespace CountedHandles

/-- What can be told from the calls that a referent has received. -/
structure Ledger where
  /-- How many handles are counted. -/
  count : Nat
  /-- The handles that are attached. -/
  attached : Finset Serial
deriving DecidableEq

namespace Ledger

/-- The ledger of a referent that has not been called yet. -/
def empty : Ledger := ⟨0, ∅⟩

/-- The ledger of a referent that counts exactly the handles that are attached. -/
def settled (attached : Finset Serial) : Ledger := ⟨attached.card, attached⟩

/-- The ledger after one more call, if the call is in order: handles that come must not be attached,
handles that leave or are copied must be, and only what is counted can be discounted. -/
def receive? (ledger : Ledger) : Message → Option Ledger
  | .increment => some { ledger with count := ledger.count + 1 }
  | .decrement => if 0 < ledger.count then some { ledger with count := ledger.count - 1 } else none
  | .notice (.register serial) =>
    if serial ∉ ledger.attached then
      some { ledger with attached := insert serial ledger.attached }
    else none
  | .notice (.unregister serial) =>
    if serial ∈ ledger.attached then
      some { ledger with attached := ledger.attached.erase serial }
    else none
  | .notice (.copy source destination) =>
    if source ∈ ledger.attached ∧ destination ∉ ledger.attached then
      some { ledger with attached := insert destination ledger.attached }
    else none
  | .notice (.move source destination) =>
    if source ∈ ledger.attached ∧ destination ∉ ledger.attached then
      some { ledger with attached := insert destination (ledger.attached.erase source) }
    else none

/-- The ledger after several calls, if all of them are in order. -/
def replay? (ledger : Ledger) : List Message → Option Ledger
  | [] => some ledger
  | message :: rest => (ledger.receive? message).bind fun next => next.replay? rest

/-- Every attached handle is counted, and at most one that is not attached. -/
def Balanced (ledger : Ledger) : Prop :=
  ledger.attached.card ≤ ledger.count ∧ ledger.count ≤ ledger.attached.card + 1

instance (ledger : Ledger) : Decidable ledger.Balanced :=
  inferInstanceAs (Decidable (_ ∧ _))

/-- Calls that are in order lead from one ledger to another through balanced ledgers only. -/
inductive Follows : Ledger → List Message → Ledger → Prop
  /-- No call leads nowhere else. -/
  | nil {ledger : Ledger} (balanced : ledger.Balanced) : Follows ledger [] ledger
  /-- A call that is in order leads on. -/
  | cons {ledger next last : Ledger} {message : Message} {rest : List Message}
      (balanced : ledger.Balanced) (received : ledger.receive? message = some next)
      (follows : Follows next rest last) : Follows ledger (message :: rest) last

variable {ledger next last : Ledger} {messages rest : List Message}
  {attached : Finset Serial} {source serial : Serial}

/-- A ledger that counts what is attached is balanced. -/
theorem balanced_settled : (settled attached).Balanced :=
  ⟨Nat.le_refl _, Nat.le_succ _⟩

@[simp] theorem settled_empty : settled ∅ = empty := rfl

namespace Follows

/-- Calls that lead on from where others lead follow these. -/
theorem append (h : Follows ledger messages next) (hrest : Follows next rest last) :
    Follows ledger (messages ++ rest) last := by
  induction h with
  | nil _ => exact hrest
  | cons balanced received _ ih => exact .cons balanced received (ih hrest)

/-- Calls lead to the ledger that is found when they are replayed. -/
theorem replay? (h : Follows ledger messages last) : ledger.replay? messages = some last := by
  induction h with
  | nil _ => rfl
  | cons _ received _ ih => rw [Ledger.replay?, received, Option.bind_some, ih]

/-- Calls lead to a balanced ledger. -/
theorem balanced (h : Follows ledger messages last) : last.Balanced := by
  induction h with
  | nil balanced => exact balanced
  | cons _ _ _ ih => exact ih

/-- Wherever calls that are in order are broken off, those up to there are in order. -/
theorem of_prefix (h : Follows ledger messages last) (hbegins : rest <+: messages) :
    ∃ next, Follows ledger rest next := by
  induction h generalizing rest with
  | nil balanced =>
    rw [List.prefix_nil.mp hbegins]
    exact ⟨_, .nil balanced⟩
  | cons balanced received _ ih =>
    rcases List.prefix_cons_iff.mp hbegins with rfl | ⟨part, rfl, hpart⟩
    · exact ⟨_, .nil balanced⟩
    · obtain ⟨next, hnext⟩ := ih hpart
      exact ⟨next, .cons balanced received hnext⟩

/-- No call leads from a settled ledger to itself. -/
theorem refl : Follows (settled attached) [] (settled attached) :=
  .nil balanced_settled

/-- A handle that is counted and then attached leaves the ledger settled. -/
theorem join {notice : Notice} (hfresh : serial ∉ attached)
    (hnotice : (⟨attached.card + 1, attached⟩ : Ledger).receive? (.notice notice) =
      some ⟨attached.card + 1, insert serial attached⟩) :
    Follows (settled attached) [.increment, .notice notice] (settled (insert serial attached)) := by
  have hcard : (⟨attached.card + 1, insert serial attached⟩ : Ledger) =
      settled (insert serial attached) := by
    rw [settled, Finset.card_insert_of_notMem hfresh]
  refine .cons balanced_settled rfl (.cons ⟨Nat.le_succ _, Nat.le_refl _⟩ hnotice ?_)
  rw [hcard]
  exact refl

/-- A new handle may be registered with a settled ledger. -/
theorem register (hfresh : serial ∉ attached) :
    Follows (settled attached) [.increment, .notice (.register serial)]
      (settled (insert serial attached)) :=
  join hfresh (by simp [receive?, hfresh])

/-- A new handle may be a copy of one that is attached to a settled ledger. -/
theorem copy (hsource : source ∈ attached) (hfresh : serial ∉ attached) :
    Follows (settled attached) [.increment, .notice (.copy source serial)]
      (settled (insert serial attached)) :=
  join hfresh (by simp [receive?, hsource, hfresh])

/-- A handle may take the place of one that is attached to a settled ledger. -/
theorem move (hsource : source ∈ attached) (hfresh : serial ∉ attached) :
    Follows (settled attached) [.notice (.move source serial)]
      (settled (insert serial (attached.erase source))) := by
  have hleft : serial ∉ attached.erase source := fun hmem => hfresh (Finset.mem_of_mem_erase hmem)
  have hcard : (⟨attached.card, insert serial (attached.erase source)⟩ : Ledger) =
      settled (insert serial (attached.erase source)) := by
    rw [settled, Finset.card_insert_of_notMem hleft, Finset.card_erase_add_one hsource]
  have hreceived : (settled attached).receive? (.notice (.move source serial)) =
      some (settled (insert serial (attached.erase source))) := by
    rw [← hcard]
    simp [receive?, settled, hsource, hfresh]
  exact .cons balanced_settled hreceived refl

/-- A handle that is attached to a settled ledger may leave it and then be discounted. -/
theorem leave (hmem : serial ∈ attached) :
    Follows (settled attached) [.notice (.unregister serial), .decrement]
      (settled (attached.erase serial)) := by
  have hpos : 0 < attached.card := Finset.card_pos.mpr ⟨serial, hmem⟩
  have hcard := Finset.card_erase_add_one hmem
  have hbalanced : (⟨attached.card, attached.erase serial⟩ : Ledger).Balanced := by
    constructor
    · change (attached.erase serial).card ≤ attached.card
      omega
    · change attached.card ≤ (attached.erase serial).card + 1
      omega
  refine .cons balanced_settled (by simp [receive?, settled, hmem]) (.cons hbalanced ?_ refl)
  have hcount : attached.card - 1 = (attached.erase serial).card := by omega
  simp [receive?, hpos, settled, hcount]

end Follows

end Ledger

end CountedHandles
