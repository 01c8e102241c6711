import CountedHandles.Proofs.Moments
import CountedHandles.Proofs.Protocol

/-!
# Deliveries

Handles act on referents by calling them and in no other way: what becomes of a referent in the
course of some acts is what it makes of the messages that reach it. This file says of every
operation on handles which calls it makes and which handles exist when it makes them, in all builds.
-/

namespace CountedHandles

/-- Whether a message gives up a handle that holds the referent. -/
def Message.releases : Message → Bool
  | .decrement => true
  | .notice (.unregister _) => true
  | _ => false

/-- A new handle is announced without any being given up. -/
theorem Provenance.releases_of_mem {provenance : Provenance} {serial : Serial} {message : Message}
    (h : message ∈ provenance.messages serial) : message.releases = false := by
  cases provenance <;> simp [Provenance.messages] at h <;> grind [Message.releases]

/-- Whether a message changes the count. -/
def Message.recounts : Message → Bool
  | .notice _ => false
  | _ => true

/-- Whether a message is sent at all: notices are only given in builds that track handles. -/
def Config.sends (config : Config) : Message → Bool
  | .increment => true
  | .decrement => true
  | .notice _ => config.build.tracking

/-- What a handle with a given serial number holds at a moment. -/
def Moment.slot? (moment : Moment) (serial : Serial) : Option Slot :=
  (moment.find? fun handle => handle.serial == serial).map Handle.slot

/-- A referent hears the calls that are made to it. -/
theorem Event.mem_filterMap_messageTo? {events : List Event} {name : String} {message : Message} :
    message ∈ events.filterMap (Event.messageTo? name) ↔
      ∃ moment, .call ⟨name, message⟩ moment ∈ events := by
  rw [List.mem_filterMap]
  constructor
  · rintro ⟨event, hmem, hmessage⟩
    cases event with
    | call call moment =>
      obtain ⟨referent, message⟩ := call
      simp only [messageTo?, call?, Option.bind_some, Option.ite_none_right_eq_some,
        Option.some.injEq] at hmessage
      obtain ⟨rfl, rfl⟩ := hmessage
      exact ⟨moment, hmem⟩
    | created => cases hmessage
    | log => cases hmessage
  · rintro ⟨moment, hmem⟩
    exact ⟨_, hmem, by simp [messageTo?, call?]⟩

/-- Nothing is heard where no call is made. -/
theorem Event.filterMap_messageTo?_of_silent {events : List Event} {name : String}
    (h : ∀ event ∈ events, event.call? = none) : events.filterMap (Event.messageTo? name) = [] :=
  List.filterMap_eq_nil_iff.mpr fun event hmem => by rw [messageTo?, h event hmem, Option.bind_none]

/-- The events of several calls to one referent, if there is one to call. -/
def Config.told (config : Config) (name? : Option String) (messages : List Message)
    (handles : List Handle) : List Event :=
  name?.elim [] fun name => messages.flatMap fun message =>
    config.eventsOf ⟨name, message⟩ handles

section Told

variable {config : Config} {name? : Option String} {name : String} {messages : List Message}
  {handles moment : List Handle} {call : Call}

/-- A call among the events of some calls is one of them. -/
theorem Config.mem_told (h : .call call moment ∈ config.told name? messages handles) :
    moment = handles ∧ name? = some call.referent ∧ call.message ∈ messages := by
  cases name? with
  | none => exact absurd h List.not_mem_nil
  | some name =>
    obtain ⟨message, hmem, hevent⟩ := List.mem_flatMap.mp h
    have hcall : moment = handles ∧ call = ⟨name, message⟩ := by
      cases message <;> cases htracking : config.build.tracking <;>
        cases hkeeps : config.kind.keepsRoster <;>
        simp_all [Config.eventsOf]
    obtain ⟨rfl, rfl⟩ := hcall
    exact ⟨rfl, rfl, hmem⟩

/-- The referent that is called hears what is sent, and no other referent hears anything. -/
theorem Config.heard_told :
    (config.told name? messages handles).filterMap (Event.messageTo? name) =
      if name? = some name then messages.filter config.sends else [] := by
  have hevents (told : String) (message : Message) :
      (config.eventsOf ⟨told, message⟩ handles).filterMap (Event.messageTo? name) =
        if told = name then [message].filter config.sends else [] := by
    by_cases htold : told = name <;> cases htracking : config.build.tracking <;>
      cases hkeeps : config.kind.keepsRoster <;> cases message <;>
      simp [Config.eventsOf, Config.sends, htracking, hkeeps, Event.messageTo?, Event.call?, htold,
        List.filter]
  cases name? with
  | none => rfl
  | some told =>
    simp only [Config.told, Option.elim, List.filterMap_flatMap, hevents, Option.some.injEq]
    by_cases htold : told = name
    · simp only [if_pos htold]
      induction messages with
      | nil => rfl
      | cons message messages ih =>
        rw [List.flatMap_cons, ih, ← List.filter_append, List.singleton_append]
    · simp [htold]

end Told

namespace Referent

variable {config : Config} {referent : Referent} {messages later : List Message}

/-- Messages that are received one after the other. -/
theorem receiveAll_append :
    referent.receiveAll config (messages ++ later) =
      (referent.receiveAll config messages).receiveAll config later :=
  List.foldl_append

/-- Messages that are not sent would make no difference. -/
theorem receiveAll_filter_sends :
    referent.receiveAll config (messages.filter config.sends) =
      referent.receiveAll config messages := by
  induction messages generalizing referent with
  | nil => rfl
  | cons message messages ih =>
    cases hsends : config.sends message with
    | true => rw [List.filter_cons_of_pos hsends, receiveAll_cons, receiveAll_cons, ih]
    | false =>
      have hkeep : referent.receive config message = referent := by
        cases message with
        | notice notice =>
          have hlists : config.listsHolders = false := by
            rw [Config.listsHolders, show config.build.tracking = false from hsends, Bool.false_and]
          simp [receive, hlists]
        | _ => cases hsends
      rw [List.filter_cons_of_neg (by simp [hsends]), ih, receiveAll_cons, hkeep]

/-- A count does not fall without a decrement. -/
theorem le_count_receiveAll (h : .decrement ∉ messages) :
    referent.count ≤ (referent.receiveAll config messages).count := by
  induction messages generalizing referent with
  | nil => exact Nat.le_refl _
  | cons message messages ih =>
    rw [List.mem_cons, not_or] at h
    refine Nat.le_trans ?_ (ih h.2)
    cases message with
    | increment => exact Nat.le_succ _
    | decrement => exact absurd rfl h.1
    | notice notice => exact count_receive_notice.ge

/-- A count does not rise without an increment. -/
theorem count_receiveAll_le (h : .increment ∉ messages) :
    (referent.receiveAll config messages).count ≤ referent.count := by
  induction messages generalizing referent with
  | nil => exact Nat.le_refl _
  | cons message messages ih =>
    rw [List.mem_cons, not_or] at h
    refine Nat.le_trans (ih h.2) ?_
    cases message with
    | increment => exact absurd rfl h.1
    | decrement => exact Nat.sub_le _ _
    | notice notice => exact count_receive_notice.le

/-- Where all increments come before all decrements the count is never below both its first and its
last value. -/
theorem min_count_le {past : List Message} (hfirst : .decrement ∉ messages)
    (hlast : .increment ∉ later) (hpast : past <+: messages ++ later) :
    min referent.count (referent.receiveAll config (messages ++ later)).count ≤
      (referent.receiveAll config past).count := by
  -- Up to the end of the first part the count cannot fall, and after that it cannot rise.
  rcases List.prefix_or_prefix_of_prefix hpast (List.prefix_append messages later) with
    hearly | ⟨more, rfl⟩
  · exact min_le_of_left_le (le_count_receiveAll fun hmem => hfirst (hearly.subset hmem))
  · obtain ⟨rest, rfl⟩ := (List.prefix_append_right_inj messages).mp hpast
    rw [← List.append_assoc, receiveAll_append]
    exact min_le_of_right_le
      (count_receiveAll_le fun hmem => hlast (List.mem_append_right more hmem))

/-- Notices leave the count as it is. -/
theorem count_receiveAll_eq (h : ∀ message ∈ messages, message.recounts = false) :
    (referent.receiveAll config messages).count = referent.count := by
  have hnone {message : Message} (hrecounts : message.recounts = true) : message ∉ messages :=
    fun hmem => by simp [h message hmem] at hrecounts
  exact Nat.le_antisymm (count_receiveAll_le (hnone rfl)) (le_count_receiveAll (hnone rfl))

/-- What becomes of a referent in the course of some events. -/
def hear (config : Config) (referent : Referent) (events : List Event) : Referent :=
  referent.receiveAll config (events.filterMap (Event.messageTo? referent.name))

variable {events past : List Event}

/-- A referent remains under its name. -/
@[simp]
theorem name_hear : (referent.hear config events).name = referent.name :=
  name_receiveAll

/-- A referent remains at its address. -/
@[simp]
theorem address_hear : (referent.hear config events).address = referent.address :=
  address_receiveAll

/-- Events that happen one after the other. -/
theorem hear_append {first last : List Event} :
    referent.hear config (first ++ last) = (referent.hear config first).hear config last := by
  rw [hear, hear, hear, name_receiveAll, List.filterMap_append, receiveAll_append]

/-- Events that are no calls make no difference. -/
theorem hear_of_silent (h : ∀ event ∈ events, event.call? = none) :
    referent.hear config events = referent := by
  rw [hear, Event.filterMap_messageTo?_of_silent h, receiveAll_nil]

end Referent

namespace Store

variable {config : Config} {store before between after : Store} {sent later : List Event}
  {name : String} {name? : Option String} {messages : List Message} {a b s : Serial}
  {first second handle : Handle} {form : Form} {slot : Slot} {provenance : Provenance}
  {call : Call} {moment : List Handle}

/-- Some events lead from one store to another: these are what has happened, and every referent has
become what it makes of the messages that have reached it. -/
structure Delivers (config : Config) (before : Store) (sent : List Event) (after : Store) :
    Prop where
  /-- These events have happened. -/
  events_eq : after.events = before.events ++ sent
  /-- Referents have changed as they do on hearing the messages. -/
  referents_eq : after.referents = before.referents.map fun referent => referent.hear config sent

/-- At a moment when the handles of a store exist a handle holds what it is found with. -/
theorem slot?_handles : Moment.slot? store.handles s = (store.handle? s).map Handle.slot := rfl

/-- A call tells the referent of one of two handles that one of these takes the place of the other,
at a moment when the handles of the store exist. -/
structure AnnouncesMove (store : Store) (a b : Serial) (call : Call) (moment : Moment) : Prop where
  /-- The handles of the store exist. -/
  moment_eq : moment = store.handles
  /-- The call is a notice of a move. -/
  message_eq : ∃ source destination, call.message = .notice (.move source destination)
  /-- It goes to the referent of one of the handles. -/
  reaches : store.target? a = some call.referent ∨ store.target? b = some call.referent

/-- A notice of a move gives no handle up and changes no count. -/
theorem AnnouncesMove.quiet (h : store.AnnouncesMove a b call moment) :
    call.message.releases = false ∧ call.message.recounts = false := by
  obtain ⟨source, destination, hmessage⟩ := h.message_eq
  rw [hmessage]
  exact ⟨rfl, rfl⟩

namespace Delivers

/-- Events that call no referent change none. -/
theorem of_silent (hevents : after.events = before.events ++ sent)
    (hreferents : after.referents = before.referents)
    (hsilent : ∀ event ∈ sent, event.call? = none) : Delivers config before sent after := by
  refine ⟨hevents, ?_⟩
  simp only [hreferents, Referent.hear_of_silent hsilent, List.map_id']

/-- What is delivered on two ways is delivered on both together. -/
theorem trans (h : Delivers config before sent between)
    (hnext : Delivers config between later after) :
    Delivers config before (sent ++ later) after := by
  refine ⟨by rw [hnext.events_eq, h.events_eq, List.append_assoc], ?_⟩
  rw [hnext.referents_eq, h.referents_eq, List.map_map]
  exact List.map_congr_left fun _ _ => Referent.hear_append.symm

/-- A referent under a name has become what it makes of the messages. -/
theorem referent?_eq (h : Delivers config before sent after) :
    after.referent? name = (before.referent? name).map fun referent =>
      referent.hear config sent := by
  rw [referent?, h.referents_eq]
  exact find?_key_map fun _ => Referent.name_hear

/-- Calls to one referent are delivered to it. -/
theorem tell : Delivers config store (config.told name? messages store.handles)
    (store.tell config name? messages) where
  events_eq := by
    cases name? with
    | none => exact (List.append_nil _).symm
    | some name =>
      induction messages generalizing store with
      | nil => exact (List.append_nil _).symm
      | cons message messages ih =>
        rw [tell_cons, ih, receive, List.append_assoc]
        rfl
  referents_eq := by
    rw [referents_tell]
    refine List.map_congr_left fun referent _ => ?_
    rw [Referent.hear, Config.heard_told]
    split
    · exact Referent.receiveAll_filter_sends.symm
    · rfl

/-- A new handle is announced to its referent. -/
theorem created : Delivers config store
    (.created (store.nextHandle form slot) :: config.told (store.nameAt? slot)
      (provenance.messages store.nextSerial) (store.addHandle form slot).handles)
    (store.created config form slot provenance) := by
  have hadded : Delivers config store [.created (store.nextHandle form slot)]
      (store.addHandle form slot) := of_silent rfl rfl (by simp [Event.call?])
  exact hadded.trans tell

/-- A handle that is released is taken back from its referent. -/
theorem released : Delivers config store
    (config.told (store.target? s) [.notice (.unregister s), .decrement]
      (store.removeHandle s).handles)
    (store.released config s) := by
  have hremoved : Delivers config store [] (store.removeHandle s) :=
    of_silent (List.append_nil _).symm rfl (by simp)
  exact hremoved.trans tell

/-- A record for the log calls no referent. -/
theorem record (entry : LogRecord) :
    Delivers config store [.log entry] (store.addEvent (.log entry)) :=
  of_silent rfl rfl (by simp [Event.call?])

/-- Handles that exchange different referents are announced to them in each other's place. -/
theorem swapped : ∃ sent, Delivers config store sent (store.swapped config a b) ∧
    ∀ call moment, .call call moment ∈ sent →
      (store.swapped config a b).AnnouncesMove a b call moment := by
  have hexchanged : Delivers config store [] (store.exchangeSlots a b) :=
    of_silent (by simp) (by simp) (by simp)
  unfold Store.swapped
  dsimp only
  split
  · exact ⟨[], hexchanged, fun _ _ hmem => absurd hmem List.not_mem_nil⟩
  · refine ⟨_, (hexchanged.trans tell).trans tell, fun call moment hmem => ?_⟩
    rw [List.nil_append, List.mem_append] at hmem
    rcases hmem with hmem | hmem
    · obtain ⟨rfl, hname, hmessage⟩ := Config.mem_told hmem
      exact ⟨by simp, ⟨_, _, List.mem_singleton.mp hmessage⟩, Or.inl (by simpa using hname)⟩
    · obtain ⟨rfl, hname, hmessage⟩ := Config.mem_told hmem
      exact ⟨by simp, ⟨_, _, List.mem_singleton.mp hmessage⟩, Or.inr (by simpa using hname)⟩

/-- Of a value that is moved out its referent is told once it has been moved. -/
theorem movedOut {scheme : Scheme} {source : Serial} :
    ∃ sent, Delivers config store sent (store.movedOut config scheme source) ∧
      ∀ call moment, .call call moment ∈ sent → (store.movedOut config scheme source).AnnouncesMove
        store.nextSerial source call moment := by
  obtain ⟨sent, hdelivers, hcalls⟩ := @swapped config
    (store.created config .pointer (Slot.null scheme) .created) store.nextSerial source
  refine ⟨_, created.trans hdelivers, fun call moment hmem => hcalls call moment ?_⟩
  rw [nameAt?_null] at hmem
  simpa [Config.told] using hmem

/-- A reference that is made of a pointer is announced in its place. -/
theorem madeReference :
    ∃ sent, Delivers config store sent (store.madeReference config handle) := by
  have hemptied : Delivers config store []
      (store.setSlot handle.serial (Slot.null handle.scheme)) :=
    of_silent (List.append_nil _).symm rfl (by simp)
  exact ⟨_, (hemptied.trans (record _)).trans created⟩

/-- A pointer that is made of a reference is announced in its place. -/
theorem madePointer :
    ∃ sent, Delivers config store sent (store.madePointer config handle) := by
  have hremoved : Delivers config store [] (store.removeHandle handle.serial) :=
    of_silent (List.append_nil _).symm rfl (by simp)
  exact ⟨_, (hremoved.trans (record _)).trans created⟩

end Delivers

end Store

end CountedHandles
