import CountedHandles.Proofs.Holding
import CountedHandles.Referent.Calls

/-!
# What referents are told

A call that meets no objection changes one referent and adds its events; nothing else changes. This
file describes such calls as functions on stores, and shows that the calls of the library are these
functions wherever the count covers a decrement and the roster has no objection to a notice.
-/

namespace CountedHandles

/-- Whether referents list the handles that hold them. -/
def Config.listsHolders (config : Config) : Bool :=
  config.build.tracking && config.kind.keepsRoster

/-- The events of a call: a notice is only given in builds that track handles, and only a roster
that is kept makes a record of it. -/
def Config.eventsOf (config : Config) (call : Call) (handles : List Handle) : List Event :=
  match call.message with
  | .notice notice =>
    if config.build.tracking then
      .call call handles :: if config.kind.keepsRoster then [.log (.following notice)] else []
    else []
  | _ => [.call call handles]

namespace Referent

/-- A referent as a call without objection leaves it. -/
def receive (config : Config) (referent : Referent) : Message → Referent
  | .increment => { referent with count := referent.count + 1 }
  | .decrement => { referent with count := referent.count - 1 }
  | .notice notice =>
    if config.listsHolders then { referent with roster := referent.roster.after notice }
    else referent

/-- A referent as several calls leave it. -/
def receiveAll (config : Config) (referent : Referent) (messages : List Message) : Referent :=
  messages.foldl (receive config) referent

variable {config : Config} {referent : Referent} {message : Message} {messages : List Message}

@[simp] theorem name_receive : (referent.receive config message).name = referent.name := by
  unfold receive
  split <;> try split
  all_goals rfl

@[simp] theorem address_receive :
    (referent.receive config message).address = referent.address := by
  unfold receive
  split <;> try split
  all_goals rfl

@[simp] theorem links_receive : (referent.receive config message).links = referent.links := by
  unfold receive
  split <;> try split
  all_goals rfl

@[simp] theorem count_receive_notice {notice : Notice} :
    (referent.receive config (.notice notice)).count = referent.count := by
  simp only [receive]
  split <;> rfl

@[simp] theorem receiveAll_nil : referent.receiveAll config [] = referent := rfl

@[simp] theorem receiveAll_cons :
    referent.receiveAll config (message :: messages) =
      (referent.receive config message).receiveAll config messages := rfl

@[simp] theorem name_receiveAll : (referent.receiveAll config messages).name = referent.name := by
  induction messages generalizing referent with
  | nil => rfl
  | cons message messages ih => simp [ih]

@[simp] theorem address_receiveAll :
    (referent.receiveAll config messages).address = referent.address := by
  induction messages generalizing referent with
  | nil => rfl
  | cons message messages ih => simp [ih]

@[simp] theorem links_receiveAll :
    (referent.receiveAll config messages).links = referent.links := by
  induction messages generalizing referent with
  | nil => rfl
  | cons message messages ih => simp [ih]

end Referent

namespace Store

/-- A store as a call without objection leaves it. -/
def receive (config : Config) (store : Store) (name : String) (message : Message) : Store :=
  { store with
    referents := store.referents.map fun referent =>
      if referent.name == name then referent.receive config message else referent
    events := store.events ++ config.eventsOf ⟨name, message⟩ store.handles }

/-- A store as several calls to one referent leave it, if there is one to call. -/
def tell (config : Config) (store : Store) (name? : Option String) (messages : List Message) :
    Store :=
  match name? with
  | none => store
  | some name => messages.foldl (fun store message => store.receive config name message) store

variable {config : Config} {store : Store} {name : String} {name? : Option String}
  {message : Message} {messages : List Message}

@[simp] theorem handles_receive : (store.receive config name message).handles = store.handles := rfl

@[simp] theorem nextSerial_receive :
    (store.receive config name message).nextSerial = store.nextSerial := rfl

@[simp] theorem tell_none : store.tell config none messages = store := rfl

@[simp] theorem tell_nil : store.tell config name? [] = store := by
  cases name? <;> rfl

theorem tell_cons :
    store.tell config (some name) (message :: messages) =
      (store.receive config name message).tell config (some name) messages := rfl

/-- Calls change no handle. -/
@[simp] theorem handles_tell : (store.tell config name? messages).handles = store.handles := by
  cases name? with
  | none => rfl
  | some name =>
    induction messages generalizing store with
    | nil => rfl
    | cons message messages ih => rw [tell_cons, ih, handles_receive]

/-- Calls create no handle. -/
@[simp] theorem nextSerial_tell :
    (store.tell config name? messages).nextSerial = store.nextSerial := by
  cases name? with
  | none => rfl
  | some name =>
    induction messages generalizing store with
    | nil => rfl
    | cons message messages ih => rw [tell_cons, ih, nextSerial_receive]

/-- Calls reach the referent with the name that is called, and no other. -/
theorem referents_tell :
    (store.tell config name? messages).referents = store.referents.map fun referent =>
      if name? = some referent.name then referent.receiveAll config messages else referent := by
  cases name? with
  | none => simp
  | some name =>
    induction messages generalizing store with
    | nil => simp
    | cons message messages ih =>
      rw [tell_cons, ih, receive, List.map_map]
      refine List.map_congr_left fun referent _ => ?_
      by_cases hname : referent.name = name
      · simp [hname]
      · simp [hname, Ne.symm hname]

/-- A referent that was called is found changed, and all others are found as they were. -/
theorem referent?_receive {other : String} :
    (store.receive config name message).referent? other =
      (store.referent? other).map fun referent =>
        if referent.name == name then referent.receive config message else referent := by
  apply find?_key_map
  intro referent
  split <;> simp

end Store

namespace Referent

open Operation

variable {config : Config} {store : Store} {name : String} {referent : Referent} {notice : Notice}

/-- A call that is recorded leaves the question whether a count can be raised as it was. -/
theorem run_isFull {event : Event} : isFull name (store.addEvent event) =
    .ok ((store.referent? name).any fun referent => countLimit store ≤ referent.count)
      (store.addEvent event) := rfl

/-- A count below its limit is raised. -/
theorem run_increment_of_room (hroom : ∀ referent, store.referent? name = some referent →
      referent.count < countLimit store) :
    increment name store = .ok () ((store.addEvent
      (.call ⟨name, .increment⟩ store.handles)).updateReferent name fun referent =>
        { referent with count := referent.count + 1 }) := by
  have hfull : ((store.referent? name).any fun referent =>
      decide (countLimit store ≤ referent.count)) = false := by
    cases hfound : store.referent? name with
    | none => rfl
    | some referent => simpa using hroom referent hfound
  unfold increment
  simp only [run_bind, run_recordCall, run_isFull, hfull, Bool.false_eq_true, if_false,
    run_modify]

/-- A referent whose count has room counts one more handle. -/
theorem run_increment (config : Config)
    (hroom : ∀ referent, store.referent? name = some referent →
      referent.count < countLimit store) :
    increment name store = .ok () (store.receive config name .increment) :=
  run_increment_of_room hroom

/-- A count at its limit is not raised, and the run is over. -/
theorem run_increment_of_full (hfound : store.referent? name = some referent)
    (hfull : countLimit store ≤ referent.count) :
    ∃ after, increment name store = .error .collapse after := by
  unfold increment
  simp only [run_bind, run_recordCall, run_isFull, hfound, Option.any_some, hfull, decide_true,
    if_true]
  exact ⟨_, rfl⟩

/-- A count above zero can be lowered. -/
theorem run_decrement (hfound : store.referent? name = some referent)
    (hcount : 0 < referent.count) :
    decrement config name store = .ok () (store.receive config name .decrement) := by
  have hstill : (store.addEvent (.call ⟨name, .decrement⟩ store.handles)).referent? name =
      some referent := hfound
  have hne : (referent.count == 0) = false := by
    rw [beq_eq_false_iff_ne]
    omega
  unfold decrement isUncounted
  simp only [run_bind, run_recordCall, run_get, run_pure, hstill, Option.all_some, hne,
    Bool.and_false, Bool.false_eq_true, if_false, run_modify]
  rfl

/-- A roster without objection follows a notice and raises no alarm. -/
theorem follow_of_objection? {roster : Roster} (assertions : Bool)
    (h : roster.objection? notice = none) :
    roster.follow assertions notice = (roster.after notice, none) := by
  simp [Roster.follow, h]

/-- A roster without objection follows a notice, which is recorded for the log. -/
theorem run_follow (hnodup : (store.referents.map Referent.name).Nodup)
    (hobjection : ∀ referent, store.referent? name = some referent →
      referent.roster.objection? notice = none) :
    follow config name notice store =
      .ok () ((store.addEvent (.log (.following notice))).updateReferent name fun referent =>
        { referent with roster := referent.roster.after notice }) := by
  have hstill : (store.addEvent (.log (.following notice))).referent? name =
      store.referent? name := rfl
  unfold follow
  simp only [run_bind, run_recordLog, run_get, hstill]
  cases hfound : store.referent? name with
  | none => simp only [Store.updateReferent_of_referent?_eq_none (hstill.trans hfound), run_pure]
  | some referent =>
    simp only [follow_of_objection? config.build.assertions (hobjection referent hfound),
      run_bind, run_modify, run_pure]
    congr 1
    refine Store.updateReferent_congr fun other hmem hname => ?_
    have hother := (Store.referent?_eq_some_iff hnodup).mpr ⟨hmem, hname⟩
    rw [hfound] at hother
    cases hother
    rfl

/-- A notice to which no roster objects is followed. -/
theorem run_notify (hnodup : (store.referents.map Referent.name).Nodup)
    (hobjection : ∀ referent, store.referent? name = some referent → config.listsHolders = true →
      referent.roster.objection? notice = none) :
    notify config name notice store = .ok () (store.receive config name (.notice notice)) := by
  unfold notify
  cases hlists : config.listsHolders with
  | false =>
    have hkeep : ∀ referent : Referent, referent.receive config (.notice notice) = referent := by
      intro referent
      simp [receive, hlists]
    cases htracking : config.build.tracking with
    | false => simp [Store.receive, Config.eventsOf, htracking, hkeep]
    | true =>
      have hkeeps : config.kind.keepsRoster = false := by
        simpa [Config.listsHolders, htracking] using hlists
      simp [run_bind, Store.receive, Config.eventsOf, htracking, hkeeps, hkeep, Store.addEvent]
  | true =>
    obtain ⟨htracking, hkeeps⟩ : config.build.tracking = true ∧ config.kind.keepsRoster = true := by
      simpa [Config.listsHolders] using hlists
    have hfollow := @run_follow config (store.addEvent (.call ⟨name, .notice notice⟩ store.handles))
      name notice hnodup fun referent hfound => hobjection referent hfound hlists
    simp only [run_bind, run_recordCall, htracking, hkeeps, if_true, hfollow]
    simp [Store.receive, receive, hlists, Config.eventsOf, htracking, hkeeps, Store.updateReferent,
      Store.addEvent]

end Referent

end CountedHandles
