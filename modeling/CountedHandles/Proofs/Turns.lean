import CountedHandles.Command.Places
import CountedHandles.Proofs.Keeping
import CountedHandles.Proofs.Misuse

/-!
# Turns

A turn either is completed or is cut short. This file states what holds in both cases for the
elementary turns, and says when one session leads to another: some handles are loose in it, its
store has followed a course of acts, and only some names may stand for other handles.
-/

namespace CountedHandles

/-- The address that is meant by a place, if there is one. -/
def Session.addressOf? (session : Session) : Place → Option Address
  | .address address => some address
  | .referent name => (session.store.referent? name).map Referent.address

namespace Turn

open Session

/-- One property holds of what a turn is completed with, another of what cuts it short. -/
def Ends (turn : Turn α) (session : Session) (done : α → Session → Prop)
    (cut : Stop → Session → Prop) : Prop :=
  match turn session with
  | .ok result after => done result after
  | .error stop after => cut stop after

variable {turn : Turn α} {session after : Session} {done : α → Session → Prop}
  {cut : Stop → Session → Prop} {name first second : String}

/-- A sequence goes on only from a result. -/
theorem run_bind (turn : Turn α) (next : α → Turn β) (session : Session) :
    (turn >>= next) session =
      match turn session with
      | .ok result after => next result after
      | .error stop after => .error stop after := by
  cases h : turn session <;> simp only [bind, EStateM.bind, h]

@[simp] theorem run_get (session : Session) : (get : Turn Session) session = .ok session session :=
  rfl

@[simp] theorem run_modify (change : Session → Session) (session : Session) :
    (modify change : Turn Unit) session = .ok () (change session) := rfl

@[simp] theorem run_require_true (refusal : Refusal) (session : Session) :
    require true refusal session = .ok () session := rfl

/-- A sequence ends as its second part does, unless the first part is cut short. -/
theorem ends_bind {next : α → Turn β} {done : β → Session → Prop}
    (h : turn.Ends session (fun result after => (next result).Ends after done cut) cut) :
    (turn >>= next).Ends session done cut := by
  unfold Ends at h ⊢
  rw [run_bind]
  cases hturn : turn session <;> simpa only [hturn] using h

/-- A handle under a name is found and nothing changes. -/
theorem run_handle {found : Handle} (h : session.handle? name = some found) :
    handle name session = .ok found session := by
  simp only [handle, run_bind, run_get, h]
  rfl

/-- Without a handle under a name the turn is refused and nothing changes. -/
theorem run_handle_of_none (h : session.handle? name = none) :
    handle name session = .error (.refused .unknownHandle) session := by
  simp only [handle, run_bind, run_get, h]
  rfl

/-- A pointer under a name is found and nothing changes. -/
theorem run_pointer {found : Handle} (h : session.handle? name = some found)
    (hform : found.form = .pointer) : pointer name session = .ok found session := by
  simp only [pointer, run_bind, run_handle h, hform, beq_self_eq_true, run_require_true]
  rfl

/-- A referent that exists is found and nothing changes. -/
theorem run_referent {found : Referent} (h : session.store.referent? name = some found) :
    referent name session = .ok found session := by
  simp only [referent, run_bind, run_get, h]
  rfl

/-- A referent that does not exist is refused and nothing changes. -/
theorem run_referent_of_none (h : session.store.referent? name = none) :
    referent name session = .error (.refused
      (if session.created.contains name then .deadReferent else .unknownReferent)) session := by
  simp only [referent, run_bind, run_get, h]
  cases session.created.contains name <;> rfl

/-- An address that is meant by a place is found out without any change. -/
theorem run_resolve {place : Place} {address : Address}
    (h : session.addressOf? place = some address) :
    resolve place session = .ok address session := by
  cases place with
  | address given =>
    cases h
    rfl
  | referent name =>
    obtain ⟨found, hfound, rfl⟩ := Option.map_eq_some_iff.mp h
    simp only [resolve, run_bind, run_referent hfound]
    rfl

/-- So is one of which a handle may be made. -/
theorem run_resolveFor {form : Form} {scheme : Scheme} {place : Place} {address : Address}
    (h : session.addressOf? place = some address)
    (hallows : session.store.allows form scheme address = true) :
    resolveFor form scheme place session = .ok address session := by
  simp only [resolveFor, run_bind, run_resolve h, run_get, hallows, run_require_true]
  rfl

/-- A turn whose result is known is completed with it. -/
theorem ends_of_run {result : α} (hrun : turn session = .ok result after)
    (h : done result after) : turn.Ends session done cut := by
  unfold Ends
  rwa [hrun]

/-- A turn that is completed in one way is completed in every weaker way. -/
theorem Ends.imp {done' : α → Session → Prop} (h : turn.Ends session done cut)
    (hdone : ∀ result after, done result after → done' result after) :
    turn.Ends session done' cut := by
  unfold Ends at h ⊢
  cases hturn : turn session with
  | ok result after =>
    rw [hturn] at h
    exact hdone result after h
  | error stop after => simpa only [hturn] using h

/-- A turn that is cut short in one way is cut short in every weaker way. -/
theorem Ends.cut_imp {cut' : Stop → Session → Prop} (h : turn.Ends session done cut)
    (hcut : ∀ stop after, cut stop after → cut' stop after) : turn.Ends session done cut' := by
  unfold Ends at h ⊢
  cases hturn : turn session with
  | ok result after => simpa only [hturn] using h
  | error stop after =>
    rw [hturn] at h
    exact hcut stop after h

/-- What is known of a turn in two ways is known together. -/
theorem Ends.and {done' : α → Session → Prop} {cut' : Stop → Session → Prop}
    (h : turn.Ends session done cut) (h' : turn.Ends session done' cut') :
    turn.Ends session (fun result after => done result after ∧ done' result after)
      fun stop after => cut stop after ∧ cut' stop after := by
  unfold Ends at h h' ⊢
  split
  · rename_i hturn
    rw [hturn] at h h'
    exact ⟨h, h'⟩
  · rename_i hturn
    rw [hturn] at h h'
    exact ⟨h, h'⟩

/-- What always holds holds of whatever a turn comes to. -/
theorem ends_of_forall (hdone : ∀ result after, done result after)
    (hcut : ∀ stop after, cut stop after) : turn.Ends session done cut := by
  unfold Ends
  split
  · apply hdone
  · apply hcut

theorem ends_pure {result : α} (h : done result session) :
    (pure result : Turn α).Ends session done cut := h

theorem ends_get {done : Session → Session → Prop} (h : done session session) :
    (get : Turn Session).Ends session done cut := h

theorem ends_modify {done : Unit → Session → Prop} {change : Session → Session}
    (h : done () (change session)) : (modify change : Turn Unit).Ends session done cut := h

theorem ends_set {done : Unit → Session → Prop} (h : done () after) :
    (set after : Turn Unit).Ends session done cut := h

theorem ends_refuse {refusal : Refusal} (h : cut (.refused refusal) session) :
    (refuse refusal : Turn α).Ends session done cut := h

/-- A requirement is met or refuses the command. -/
theorem ends_require {done : Unit → Session → Prop} {condition : Bool} {refusal : Refusal}
    (hdone : condition = true → done () session)
    (hcut : ∀ refusal, cut (.refused refusal) session) :
    (require condition refusal).Ends session done cut := by
  cases condition with
  | false => exact hcut refusal
  | true => exact hdone rfl

/-- An operation that succeeds changes the store. -/
theorem ends_perform {operation : Operation α} {result : α} {store : Store}
    (hrun : operation session.store = .ok result store)
    (h : done result { session with store := store }) :
    (perform operation).Ends session done cut := by
  unfold Ends perform
  simpa only [hrun] using h

/-- An operation that fails cuts a turn short. -/
theorem ends_perform_of_error {operation : Operation α} {fault : Fault} {store : Store}
    (hrun : operation session.store = .error fault store)
    (h : cut (.fault fault) { session with store := store }) :
    (perform operation).Ends session done cut := by
  unfold Ends perform
  simpa only [hrun] using h

/-- An operation that is performed refuses nothing. -/
theorem ends_perform_not_refused {operation : Operation α} :
    (perform operation).Ends session (fun _ _ => True)
      fun stop _ => ∀ refusal, stop ≠ .refused refusal := by
  unfold Ends perform
  cases operation session.store with
  | ok result after => trivial
  | error fault after => simp

/-- A handle is looked up under its name. -/
theorem ends_handle {done : Handle → Session → Prop}
    (hdone : ∀ handle, session.serial? name = some handle.serial →
      session.store.handle? handle.serial = some handle → done handle session)
    (hcut : ∀ refusal, cut (.refused refusal) session) :
    (handle name).Ends session done cut := by
  refine ends_bind (ends_get ?_)
  cases hfound : session.handle? name with
  | none => exact ends_refuse (hcut _)
  | some handle =>
    obtain ⟨hserial, hstored⟩ := handle?_eq_some hfound
    exact hdone handle hserial hstored

/-- A pointer is looked up under its name. -/
theorem ends_pointer {done : Handle → Session → Prop}
    (hdone : ∀ handle, session.serial? name = some handle.serial →
      session.store.handle? handle.serial = some handle → handle.form = .pointer →
      done handle session)
    (hcut : ∀ refusal, cut (.refused refusal) session) :
    (pointer name).Ends session done cut :=
  ends_bind (ends_handle (fun handle hserial hstored => ends_bind (ends_require
    (fun hform => hdone handle hserial hstored (by simpa using hform)) hcut)) hcut)

/-- A reference is looked up under its name. -/
theorem ends_reference {done : Handle → Session → Prop}
    (hdone : ∀ handle, session.serial? name = some handle.serial →
      session.store.handle? handle.serial = some handle → handle.form = .reference →
      done handle session)
    (hcut : ∀ refusal, cut (.refused refusal) session) :
    (reference name).Ends session done cut :=
  ends_bind (ends_handle (fun handle hserial hstored => ends_bind (ends_require
    (fun hform => hdone handle hserial hstored (by simpa using hform)) hcut)) hcut)

/-- A pointer that is known is looked up under its name. -/
theorem ends_pointer_of_found {done : Handle → Session → Prop} {found : Handle}
    (hfound : session.handle? name = some found) (hform : found.form = .pointer)
    (hdone : done found session) : (pointer name).Ends session done cut := by
  unfold Ends
  rw [run_pointer hfound hform]
  exact hdone

/-- Two handles are looked up under different names. -/
theorem ends_distinct {done : Handle × Handle → Session → Prop}
    (hdone : ∀ a b, session.serial? first = some a.serial →
      session.store.handle? a.serial = some a → session.serial? second = some b.serial →
      session.store.handle? b.serial = some b → first ≠ second → done (a, b) session)
    (hcut : ∀ refusal, cut (.refused refusal) session) :
    (distinct first second).Ends session done cut :=
  ends_bind (ends_handle (fun a ha hfirst => ends_bind (ends_handle (fun b hb hsecond =>
    ends_bind (ends_require (fun hne => hdone a b ha hfirst hb hsecond (by simpa using hne))
      hcut)) hcut)) hcut)

/-- A referent is looked up by its name. -/
theorem ends_referent {done : Referent → Session → Prop}
    (hdone : ∀ referent, session.store.referent? name = some referent → done referent session)
    (hcut : ∀ refusal, cut (.refused refusal) session) :
    (referent name).Ends session done cut := by
  refine ends_bind (ends_get ?_)
  cases hfound : session.store.referent? name with
  | none => exact ends_bind (ends_require (fun _ => ends_refuse (hcut _)) hcut)
  | some referent => exact hdone referent hfound

/-- An address is found out without any change. -/
theorem ends_resolve {done : Address → Session → Prop} {place : Place}
    (hdone : ∀ address, session.addressOf? place = some address → done address session)
    (hcut : ∀ refusal, cut (.refused refusal) session) :
    (resolve place).Ends session done cut := by
  cases place with
  | address address => exact hdone address rfl
  | referent name =>
    refine ends_bind (ends_referent (fun referent hfound => hdone referent.address ?_) hcut)
    rw [addressOf?, hfound, Option.map_some]

/-- An address of which a handle may be made is found out without any change. -/
theorem ends_resolveFor {done : Address → Session → Prop} {form : Form} {scheme : Scheme}
    {place : Place}
    (hdone : ∀ address, session.addressOf? place = some address →
      session.store.allows form scheme address = true → done address session)
    (hcut : ∀ refusal, cut (.refused refusal) session) :
    (resolveFor form scheme place).Ends session done cut :=
  ends_bind (ends_resolve (fun address hgiven => ends_bind (ends_get (ends_bind (ends_require
    (fun hallows => hdone address hgiven hallows) hcut)))) hcut)

/-- A handle is kept under a free name without any other effect. -/
theorem ends_keep_of_free {config : Config} {serial : Serial} {done : Unit → Session → Prop}
    (hfree : session.serial? name = none) (hdone : done () (session.bindName name serial)) :
    (keep config name serial).Ends session done cut := by
  refine ends_bind (ends_get (ends_bind (ends_modify ?_)))
  rw [hfree]
  exact hdone

/-- A handle is kept under a name in place of another one, which is released afterwards. -/
theorem ends_keep_of_taken {config : Config} {serial old : Serial} {done : Unit → Session → Prop}
    (h : session.store.Consistent config) (htaken : session.serial? name = some old)
    (hdone : done () { session.bindName name serial with
      store := session.store.released config old }) :
    (keep config name serial).Ends session done cut := by
  refine ends_bind (ends_get (ends_bind (ends_modify ?_)))
  rw [htaken]
  exact ends_perform (Handle.run_release h old) hdone

end Turn

namespace Session

/-- A session in which some handles are loose and only some keepers may keep other handles than in
an earlier one, while the store has followed a course of acts. -/
structure Leads (config : Config) (touched : List Keeper) (loose : List Serial)
    (before session : Session) : Prop where
  /-- Every handle is loose or kept. -/
  holding : session.Holding config loose
  /-- The store has followed a course of acts. -/
  course : Store.Course config before.store session.store
  /-- All other keepers keep what they kept. -/
  keptBy_eq : ∀ keeper ∉ touched, session.keptBy keeper = before.keptBy keeper

/-- What is left of a session when a command has been refused or has panicked: nothing has changed,
and the panic is the one that answers the misuse of a handle. -/
def Unharmed (before : Session) (misuse? : Option Panic) : Stop → Session → Prop
  | .refused _, session => session = before
  | .fault (.panic cause), session => session = before ∧ misuse? = some cause
  | .fault _, _ => False

/-- What is left of a session when the check of a referent has ended the run. -/
def Violates (config : Config) (before : Session) (referent : Referent) : Stop → Session → Prop
  | .fault (.violation violation), session =>
    (before.store.checkpoint config referent).violationOf? referent.name = some violation ∧
      session = { before with store := before.store.checkpoint config referent }
  | _, _ => False

variable {config : Config} {touched : List Keeper} {loose gone new : List Serial}
  {before session : Session} {store : Store} {s : Serial} {name : String}
  {cut : Stop → Session → Prop} {handle : Handle}

/-- A sound session leads to itself. -/
theorem Sound.leads (h : session.Sound config) : Leads config touched [] session session :=
  ⟨h, .refl, fun _ _ => rfl⟩

namespace Leads

/-- A passage takes loose handles away and brings loose handles. -/
theorem passage (h : Leads config touched (gone ++ loose) before session)
    (hpassage : Store.Passage config gone new session.store store) :
    Leads config touched (new ++ loose) before { session with store := store } :=
  ⟨h.holding.passage hpassage, h.course.trans hpassage.course, fun keeper hkeeper =>
    (keptBy_withStore fun name _ => hpassage.linksOf_eq name).trans (h.keptBy_eq keeper hkeeper)⟩

/-- A name that is freed makes its handle loose. -/
theorem freeName (h : Leads config touched loose before session) (hname : .name name ∈ touched)
    (hserial : session.serial? name = some s) :
    Leads config touched (s :: loose) before (session.freeName name) where
  holding := h.holding.freeName hserial
  course := h.course
  keptBy_eq := by
    intro keeper hkeeper
    have hne : keeper ≠ .name name := fun heq => hkeeper (heq ▸ hname)
    exact (keptBy_freeName hne).trans (h.keptBy_eq keeper hkeeper)

/-- A loose handle can be released. -/
theorem release (h : Leads config touched (s :: loose) before session) :
    (Turn.perform (Handle.release config s)).Ends session
      (fun _ after => Leads config touched loose before after ∧
        after = { session with store := session.store.released config s }) cut := by
  have hwell := h.holding.consistent.toWellFormed
  have hexists : s ∈ session.store.serials := h.holding.kept_perm.mem_iff.mp List.mem_cons_self
  have hloose : Leads config touched ([s] ++ loose) before session := h
  exact Turn.ends_perform (Handle.run_release h.holding.consistent s)
    ⟨hloose.passage (.released hwell hexists), rfl⟩

/-- A loose handle is kept under a name. -/
theorem keep (h : Leads config touched (s :: loose) before session) (hname : .name name ∈ touched) :
    (Turn.keep config name s).Ends session
      (fun _ after => Leads config touched loose before after ∧ after.serial? name = some s ∧
        after.store.handle? s = session.store.handle? s) cut := by
  have hothers : ∀ keeper ∉ touched, (session.bindName name s).keptBy keeper =
      before.keptBy keeper := fun keeper hkeeper => by
    have hne : keeper ≠ .name name := fun heq => hkeeper (heq ▸ hname)
    exact (keptBy_bindName hne).trans (h.keptBy_eq keeper hkeeper)
  refine Turn.ends_bind (Turn.ends_get (Turn.ends_bind (Turn.ends_modify ?_)))
  cases hold : session.serial? name with
  | none => exact ⟨⟨h.holding.bindFresh hold, h.course, hothers⟩, by simp, rfl⟩
  | some old =>
    have hleads : Leads config touched (old :: loose) before (session.bindName name s) :=
      ⟨h.holding.bindName hold, h.course, hothers⟩
    have hne : s ≠ old := by
      have hnodup := h.holding.nodup_kept
      rw [List.cons_append, List.nodup_cons] at hnodup
      rintro rfl
      exact hnodup.1 (List.mem_append_right _ (mem_kept_of_serial? hold))
    refine hleads.release.imp ?_
    rintro _ _ ⟨hafter, rfl⟩
    exact ⟨hafter, by simp, Store.handle?_released hne⟩

/-- The order of the loose handles does not matter. -/
theorem perm (h : Leads config touched gone before session) (hperm : gone.Perm new) :
    Leads config touched new before session :=
  ⟨h.holding.perm hperm, h.course, h.keptBy_eq⟩

/-- Loose handles and members of a set can change places. -/
theorem setMembers {members : List Serial} {scheme : Scheme}
    (h : Leads config touched (gone ++ loose) before session)
    (hset : .set scheme ∈ touched)
    (hmembers : (new ++ members).Perm (gone ++ session.members scheme)) :
    Leads config touched (new ++ loose) before (session.setMembers members scheme) where
  holding := h.holding.setMembers hmembers
  course := by simpa using h.course
  keptBy_eq := by
    intro keeper hkeeper
    have hne : keeper ≠ .set scheme := fun heq => hkeeper (heq ▸ hset)
    exact (keptBy_setMembers hne).trans (h.keptBy_eq keeper hkeeper)

/-- A loose handle can be kept in a set. -/
theorem addMember {scheme : Scheme} (h : Leads config touched (s :: loose) before session)
    (hset : .set scheme ∈ touched) :
    Leads config touched loose before
      (session.setMembers (session.members scheme ++ [s]) scheme) := by
  have hmoved : (session.members scheme ++ [s]).Perm ([s] ++ session.members scheme) :=
    List.perm_append_comm
  exact @setMembers _ _ loose [s] [] _ _ _ _ h hset hmoved

/-- A member that is taken out of a set is loose. -/
theorem removeMember {scheme : Scheme} (h : Leads config touched loose before session)
    (hset : .set scheme ∈ touched) (hmem : s ∈ session.members scheme) :
    Leads config touched (s :: loose) before
      (session.setMembers ((session.members scheme).filter fun member => member != s) scheme) := by
  have hmoved : ([s] ++ (session.members scheme).filter fun member => member != s).Perm
      ([] ++ session.members scheme) :=
    @perm_cons_filter_key _ _ _ id (session.members scheme) s
      (by simpa using h.holding.nodup_members) hmem
  have hloose : Leads config touched ([] ++ loose) before session := h
  exact hloose.setMembers hset hmoved

/-- Loose handles and links of a referent can change places. -/
theorem updateLinks {referent : Referent} {change : Referent → Referent}
    (h : Leads config touched (gone ++ loose) before session)
    (hmem : referent ∈ session.store.referents) (hchange : Store.Unobtrusive change)
    (htouched : .referent referent.name ∈ touched ∨ ∀ other, (change other).links = other.links)
    (hlinks : (new ++ (change referent).links).Perm (gone ++ referent.links)) :
    Leads config touched (new ++ loose) before
      { session with store := session.store.updateReferent referent.name change } where
  holding := h.holding.updateLinks hmem hchange hlinks
  course := h.course.tail (.updateReferent hchange)
  keptBy_eq := by
    intro keeper hkeeper
    refine .trans (keptBy_withStore ?_) (h.keptBy_eq keeper hkeeper)
    rintro name rfl
    rcases htouched with hreferent | hkeep
    · have hne : name ≠ referent.name := fun heq => hkeeper (heq ▸ hreferent)
      exact Store.linksOf_updateReferent_of_ne hchange.name_eq hne
    · exact Store.linksOf_updateReferent hchange.name_eq hkeep name

end Leads

end Session

end CountedHandles
