import CountedHandles.Proofs.Conduct
import CountedHandles.Proofs.Twins

/-!
# The locality of commands

A command that creates, changes or drops handles looks at nothing but the handles that it names and
the referents, and touches nothing but these handles and those that it creates. So it comes to the
same on twin sessions: either it is cut short in both for the same reason, or it gives the same
answer and the sessions go on to agree.
-/

namespace CountedHandles

/-- The names of the handles that a command is about. -/
def HandleCommand.names : HandleCommand → List String
  | .null name _ => [name]
  | .deleted name _ => [name]
  | .hold _ name _ _ => [name]
  | .holdAddress _ name _ _ => [name]
  | .copy name source => [name, source]
  | .copyReference name source => [name, source]
  | .moveOut name source => [name, source]
  | .toReference name source => [name, source]
  | .toPointer name source => [name, source]
  | .rename name source => [name, source]
  | .drop name => [name]

/-- The names of the handles that a command is about. -/
def ChangeCommand.names : ChangeCommand → List String
  | .assignPointer name source => [name, source]
  | .assignMove name source => [name, source]
  | .assignHandle name source => [name, source]
  | .swap name other => [name, other]
  | .pointAt name _ => [name]
  | .pointAtAddress name _ => [name]
  | .clear name => [name]
  | .markDeleted name => [name]
  | .vacateBucket name => [name]
  | .replaceBucket name => [name]

/-- Of which addresses a handle may be made depends on where referents lie. -/
theorem Store.allows_congr {store other : Store} {form : Form} {scheme : Scheme} {address : Address}
    (h : other.sites = store.sites) :
    other.allows form scheme address = store.allows form scheme address := by
  have hlies (store : Store) :
      (store.referentAt? address).isSome = store.sites.contains address := by
    rw [referentAt?, List.isSome_find?, sites, List.contains_eq_any_beq, List.any_map]
    refine congrArg (List.any _) (funext fun referent => ?_)
    exact Bool.beq_comm
  unfold allows
  rw [hlies, hlies, h]

open Turn

namespace Twins

variable {config : Config} {names : List String} {twins : Twins config names}
  {session session' : Session} {store store' : Store} {turn turn' : Turn α} {s : Serial}
  {name first second : String} {handle : Handle}

/-- Two turns are both completed, in a way that is told, or are both cut short for one reason, and
then the sessions agree. -/
def TurnsAgree (twins : Twins config names) (done : α → α → Session → Session → Prop)
    (turn turn' : Turn α) (session session' : Session) : Prop :=
  match turn session, turn' session' with
  | .ok result after, .ok result' after' => done result result' after after'
  | .error stop after, .error stop' after' => stop' = stop ∧ twins.SessionsAgree after after'
  | _, _ => False

/-- Two turns give one result and lead to sessions that agree. -/
def Same (twins : Twins config names) (result result' : α) (session session' : Session) : Prop :=
  result' = result ∧ twins.SessionsAgree session session'

variable {done : α → α → Session → Session → Prop}

theorem agree_pure {result result' : α} (h : done result result' session session') :
    twins.TurnsAgree done (pure result) (pure result') session session' := h

theorem agree_get {done : Session → Session → Session → Session → Prop}
    (h : done session session' session session') :
    twins.TurnsAgree done get get session session' := h

theorem agree_modify {done : Unit → Unit → Session → Session → Prop}
    {change change' : Session → Session} (h : done () () (change session) (change' session')) :
    twins.TurnsAgree done (modify change) (modify change') session session' := h

/-- Two sequences agree if their second parts do after all that their first parts agree on. -/
theorem agree_bind {next next' : α → Turn β} {done : β → β → Session → Session → Prop}
    (h : twins.TurnsAgree (fun result result' after after' =>
      twins.TurnsAgree done (next result) (next' result') after after') turn turn' session
        session') :
    twins.TurnsAgree done (turn >>= next) (turn' >>= next') session session' := by
  unfold TurnsAgree at h ⊢
  rw [run_bind, run_bind]
  cases hturn : turn session with
  | ok result after =>
    cases hturn' : turn' session' with
    | ok result' after' => simpa only [hturn, hturn'] using h
    | error stop' after' => simp only [hturn, hturn'] at h
  | error stop after =>
    cases hturn' : turn' session' with
    | ok result' after' => simp only [hturn, hturn'] at h
    | error stop' after' => simpa only [hturn, hturn'] using h

/-- Turns that agree in one way agree in every weaker way. -/
theorem TurnsAgree.imp {done' : α → α → Session → Session → Prop}
    (h : twins.TurnsAgree done turn turn' session session')
    (hdone : ∀ result result' after after', done result result' after after' →
      done' result result' after after') : twins.TurnsAgree done' turn turn' session session' := by
  unfold TurnsAgree at h ⊢
  split
  · rename_i hturn hturn'
    rw [hturn, hturn'] at h
    exact hdone _ _ _ _ h
  · rename_i hturn hturn'
    rwa [hturn, hturn'] at h
  · rename_i hok herror
    split at h
    · rename_i hturn hturn'
      exact hok _ _ _ _ hturn hturn'
    · rename_i hturn hturn'
      exact herror _ _ _ _ hturn hturn'
    · exact h

/-- What is known of the turn in one session holds on top of what both agree on. -/
theorem TurnsAgree.and_ends {known : α → Session → Prop} {cut : Stop → Session → Prop}
    (h : twins.TurnsAgree done turn turn' session session')
    (hends : turn.Ends session known cut) :
    twins.TurnsAgree (fun result result' after after' =>
      done result result' after after' ∧ known result after) turn turn' session session' := by
  unfold Ends at hends
  unfold TurnsAgree at h ⊢
  cases hturn : turn session with
  | ok result after =>
    rw [hturn] at hends
    cases hturn' : turn' session' with
    | ok result' after' => simpa only [hturn, hturn', hends, and_true] using h
    | error stop' after' => simp only [hturn, hturn'] at h
  | error stop after =>
    cases hturn' : turn' session' with
    | ok result' after' => simp only [hturn, hturn'] at h
    | error stop' after' => simpa only [hturn, hturn'] using h

/-- A refusal is the same in both. -/
theorem agree_refuse {refusal : Refusal} (h : twins.SessionsAgree session session') :
    twins.TurnsAgree done (refuse refusal) (refuse refusal) session session' :=
  ⟨rfl, h⟩

/-- A requirement that depends on nothing else is met in both or in none. -/
theorem agree_require {condition : Bool} {refusal : Refusal}
    {done : Unit → Unit → Session → Session → Prop} (h : twins.SessionsAgree session session')
    (hdone : condition = true → done () () session session') :
    twins.TurnsAgree done (require condition refusal) (require condition refusal) session
      session' := by
  cases condition with
  | false => exact agree_refuse h
  | true => exact hdone rfl

/-- An operation that succeeds in both changes both stores. -/
theorem agree_perform {operation operation' : Operation α} {result result' : α}
    (hrun : operation session.store = .ok result store)
    (hrun' : operation' session'.store = .ok result' store')
    (h : done result result' { session with store := store } { session' with store := store' }) :
    twins.TurnsAgree done (perform operation) (perform operation') session session' := by
  unfold TurnsAgree perform
  simpa only [hrun, hrun'] using h

/-- An operation that fails in both before it changes anything ends both turns. -/
theorem agree_perform_of_error {operation operation' : Operation α} {fault : Fault}
    (h : twins.SessionsAgree session session')
    (hrun : operation session.store = .error fault session.store)
    (hrun' : operation' session'.store = .error fault session'.store) :
    twins.TurnsAgree done (perform operation) (perform operation') session session' := by
  unfold TurnsAgree perform
  simpa only [hrun, hrun', true_and] using h

/-! ## What is looked up -/

/-- A handle is looked up under one of the names. -/
theorem agree_handle {done : Handle → Handle → Session → Session → Prop} (hname : name ∈ names)
    (hdone : ∀ handle, twins.Owns handle.serial →
      twins.first.serial? name = some handle.serial →
      twins.first.store.handle? handle.serial = some handle →
      twins.second.store.handle? handle.serial = some handle →
      done handle handle twins.first twins.second) :
    twins.TurnsAgree done (Turn.handle name) (Turn.handle name) twins.first twins.second := by
  have hsame : twins.second.handle? name = twins.first.handle? name := by
    rw [Session.handle?, twins.serial?_eq name hname, Session.handle?]
    refine Option.bind_congr fun s hserial => ?_
    have hstanding := twins.standing?_eq name hname s hserial
    cases hfirst : twins.first.store.handle? s with
    | none =>
      rw [Store.standing?, Store.standing?, hfirst, Option.map_none, Option.map_eq_none_iff]
        at hstanding
      exact hstanding
    | some handle =>
      rw [Store.standing?_of_handle? hfirst] at hstanding
      obtain rfl := Store.serial_of_handle? hfirst
      exact (Store.handle?_of_standing? hstanding).1
  unfold TurnsAgree
  cases hfound : twins.first.handle? name with
  | none =>
    rw [run_handle_of_none hfound, run_handle_of_none (hsame.trans hfound)]
    exact ⟨rfl, .refl⟩
  | some handle =>
    rw [run_handle hfound, run_handle (hsame.trans hfound)]
    obtain ⟨hserial, hfirst⟩ := Session.handle?_eq_some hfound
    have hsecond := (Session.handle?_eq_some (hsame.trans hfound)).2
    exact hdone handle ⟨name, hname, hserial⟩ hserial hfirst hsecond

/-- A pointer is looked up under one of the names. -/
theorem agree_pointer {done : Handle → Handle → Session → Session → Prop} (hname : name ∈ names)
    (hdone : ∀ handle, twins.Owns handle.serial →
      twins.first.serial? name = some handle.serial →
      twins.first.store.handle? handle.serial = some handle →
      twins.second.store.handle? handle.serial = some handle → handle.form = .pointer →
      done handle handle twins.first twins.second) :
    twins.TurnsAgree done (pointer name) (pointer name) twins.first twins.second :=
  agree_bind (agree_handle hname fun handle howns hserial hfirst hsecond =>
    agree_bind (agree_require .refl fun hform =>
      hdone handle howns hserial hfirst hsecond (by simpa using hform)))

/-- A reference is looked up under one of the names. -/
theorem agree_reference {done : Handle → Handle → Session → Session → Prop} (hname : name ∈ names)
    (hdone : ∀ handle, twins.Owns handle.serial →
      twins.first.store.handle? handle.serial = some handle →
      twins.second.store.handle? handle.serial = some handle → handle.form = .reference →
      done handle handle twins.first twins.second) :
    twins.TurnsAgree done (reference name) (reference name) twins.first twins.second :=
  agree_bind (agree_handle hname fun handle howns _ hfirst hsecond =>
    agree_bind (agree_require .refl fun hform =>
      hdone handle howns hfirst hsecond (by simpa using hform)))

/-- A referent is looked up by its name, and lies at the same address in both. -/
theorem agree_referent {done : Referent → Referent → Session → Session → Prop}
    (hdone : ∀ referent referent', twins.first.store.referent? name = some referent →
      referent'.address = referent.address →
      done referent referent' twins.first twins.second) :
    twins.TurnsAgree done (referent name) (referent name) twins.first twins.second := by
  have hbare (store : Store) : (store.referent? name).map Referent.bare =
      store.census.ground.find? fun referent => referent.name == name :=
    (@find?_key_map _ _ _ Referent.name Referent.bare _ _ fun _ => rfl).symm
  have hsame : (twins.second.store.referent? name).map Referent.bare =
      (twins.first.store.referent? name).map Referent.bare := by
    rw [hbare, twins.ground_eq, hbare]
  unfold TurnsAgree
  cases hfirst : twins.first.store.referent? name with
  | none =>
    rw [hfirst, Option.map_none, Option.map_eq_none_iff] at hsame
    rw [run_referent_of_none hfirst, run_referent_of_none hsame, twins.created_eq]
    exact ⟨rfl, .refl⟩
  | some referent =>
    rw [hfirst, Option.map_some, Option.map_eq_some_iff] at hsame
    obtain ⟨referent', hsecond, hequal⟩ := hsame
    rw [run_referent hfirst, run_referent hsecond]
    exact hdone referent referent' hfirst (Referent.address_of_bare hequal)

/-- An address is found out in both. -/
theorem agree_resolve {done : Address → Address → Session → Session → Prop} {place : Place}
    (hdone : ∀ address, done address address twins.first twins.second) :
    twins.TurnsAgree done (resolve place) (resolve place) twins.first twins.second := by
  cases place with
  | address address => exact hdone address
  | referent name =>
    refine agree_bind (agree_referent fun referent referent' _ haddress => ?_)
    rw [haddress]
    exact hdone referent.address

/-- An address of which a handle may be made is found out in both. -/
theorem agree_resolveFor {done : Address → Address → Session → Session → Prop} {form : Form}
    {scheme : Scheme} {place : Place}
    (hdone : ∀ address, twins.first.store.allows form scheme address = true →
      done address address twins.first twins.second) :
    twins.TurnsAgree done (resolveFor form scheme place) (resolveFor form scheme place)
      twins.first twins.second := by
  refine agree_bind (agree_resolve fun address => agree_bind (agree_get ?_))
  rw [Store.allows_congr StoresAgree.refl.sites_eq]
  exact agree_bind (agree_require .refl fun hallows => agree_pure (hdone address hallows))

/-- Pointers that are known in both sessions are looked up. -/
theorem agree_pointer_of_found {done : Handle → Handle → Session → Session → Prop}
    {found found' : Handle} (hfound : session.handle? name = some found)
    (hfound' : session'.handle? name = some found') (hform : found.form = .pointer)
    (hform' : found'.form = .pointer) (hdone : done found found' session session') :
    twins.TurnsAgree done (pointer name) (pointer name) session session' := by
  unfold TurnsAgree
  rw [run_pointer hfound hform, run_pointer hfound' hform']
  exact hdone

/-- Two different handles of one type are looked up under two of the names. -/
theorem agree_sameType {done : Handle × Handle → Handle × Handle → Session → Session → Prop}
    {pointers : Bool} (hfirst : first ∈ names) (hsecond : second ∈ names)
    (hdone : ∀ a b, twins.Owns a.serial → twins.Owns b.serial →
      twins.first.store.handle? a.serial = some a → twins.second.store.handle? a.serial = some a →
      twins.first.store.handle? b.serial = some b → twins.second.store.handle? b.serial = some b →
      a.serial ≠ b.serial → a.form = b.form → (pointers = true → a.form = .pointer) →
      done (a, b) (a, b) twins.first twins.second) :
    twins.TurnsAgree done (ChangeCommand.sameType first second pointers)
      (ChangeCommand.sameType first second pointers) twins.first twins.second := by
  refine agree_bind (agree_bind (agree_handle hfirst fun a ha haName hfirstA hsecondA => ?_))
  refine agree_bind (agree_handle hsecond fun b hb hbName hfirstB hsecondB => ?_)
  refine agree_bind (agree_require .refl fun hne => ?_)
  refine agree_bind (agree_require .refl fun htype => ?_)
  simp only [Handle.sameType, Bool.and_eq_true, Bool.or_eq_true, beq_iff_eq,
    Bool.not_eq_true'] at htype
  obtain ⟨⟨hform, hscheme⟩, hpointers⟩ := htype
  have hserials := twins.first_sound.serial?_ne haName hbName (by simpa using hne)
  refine hdone a b ha hb hfirstA hsecondA hfirstB hsecondB hserials hform fun hasked => ?_
  rw [hasked] at hpointers
  simpa using hpointers

/-! ## What is kept -/

/-- A handle that is compared is kept under one of the names in both, and whatever was kept there
is dropped. -/
theorem agree_keep (h : twins.SessionsAgree session session') (hname : name ∈ names)
    (hs : twins.Within s) :
    twins.TurnsAgree (fun _ _ after after' => twins.SessionsAgree after after') (keep config name s)
      (keep config name (twins.shift s)) session session' := by
  have hbound := h.bindName hname hs
  refine agree_bind (agree_get (agree_bind (agree_modify ?_)))
  rw [h.serial?_eq name hname]
  cases hold : session.serial? name with
  | none => exact hbound
  | some old =>
    exact agree_perform (Handle.run_release hbound.consistent old)
      (Handle.run_release hbound.consistent' _)
      (hbound.withStore (hbound.released (h.within name hname old hold)))

/-- A handle that is created in both is kept under one of the names. -/
theorem agree_keepNew {creation creation' : Operation Serial}
    (h : twins.SessionsAgree session session') (hname : name ∈ names)
    (hrun : creation session.store = .ok session.store.nextSerial store)
    (hrun' : creation' session'.store = .ok session'.store.nextSerial store')
    (hstores : twins.StoresAgree store store') :
    twins.TurnsAgree twins.Same (HandleCommand.keepNew config name creation)
      (HandleCommand.keepNew config name creation') session session' := by
  refine agree_bind (agree_perform hrun hrun' ?_)
  have hnext : session'.store.nextSerial = twins.shift session.store.nextSerial := h.nextSerial_eq
  rw [hnext]
  refine agree_bind ((agree_keep (h.withStore hstores) hname (Or.inr h.next_le)).imp ?_)
  exact fun _ _ _ _ hafter => agree_pure ⟨rfl, hafter⟩

end Twins

/-! ## Commands -/

namespace HandleCommand

variable {config : Config}

/-- A command that creates, moves or drops a handle comes to the same on twin sessions. -/
theorem agree_run (command : HandleCommand) (twins : Twins config command.names) :
    twins.TurnsAgree twins.Same (command.run config) (command.run config) twins.first
      twins.second := by
  have hc := twins.first_sound.consistent
  have hc' := twins.second_sound.consistent
  have hw := hc.toWellFormed
  have hstores := @Twins.StoresAgree.refl _ _ twins
  have hsame := @Twins.SessionsAgree.refl _ _ twins
  cases command with
  | null name scheme =>
    exact Twins.agree_keepNew hsame List.mem_cons_self Handle.run_null Handle.run_null
      (hstores.created (Store.settled_null _) (by simp) rfl)
  | deleted name scheme =>
    exact Twins.agree_keepNew hsame List.mem_cons_self Handle.run_deleted Handle.run_deleted
      (hstores.created (Store.settled_deleted _) (by simp) rfl)
  | hold form name scheme referentName =>
    refine Twins.agree_bind (Twins.agree_referent fun referent referent' hfound haddress => ?_)
    have hsite := Store.mem_sites_of_referent? hfound
    obtain ⟨slot, hslot⟩ := Slot.exists_ofAddress_of_isSite (hw.isSite _ hsite) scheme
    exact Twins.agree_keepNew hsame List.mem_cons_self (Handle.run_ofAddress hc hslot)
      (Handle.run_ofAddress hc' (haddress ▸ hslot))
      (hstores.created (Store.settled_of_site hsite hslot) (by simp) rfl)
  | holdAddress form name scheme place =>
    refine Twins.agree_bind (Twins.agree_resolveFor fun address hallows => ?_)
    cases hslot : Slot.ofAddress scheme address with
    | ok slot =>
      exact Twins.agree_keepNew hsame List.mem_cons_self (Handle.run_ofAddress hc hslot)
        (Handle.run_ofAddress hc' hslot)
        (hstores.created (Store.settled_of_allows hallows hslot) (by simp) rfl)
    | error cause =>
      exact Twins.agree_bind (Twins.agree_perform_of_error hsame
        (Handle.run_ofAddress_of_error hslot) (Handle.run_ofAddress_of_error hslot))
  | copy name source =>
    refine Twins.agree_bind (Twins.agree_handle (by simp [names]) fun handle howns _ hfirst _ => ?_)
    exact Twins.agree_keepNew hsame List.mem_cons_self (Handle.run_copyAs hc)
      (Handle.run_copyAs hc') (hstores.created (hw.settled_copy hfirst (Or.inl rfl)) (by simp)
        (by rw [Provenance.renumber, howns.shift_eq]))
  | copyReference name source =>
    refine Twins.agree_bind (Twins.agree_reference (by simp [names])
      fun handle howns hfirst _ _ => ?_)
    exact Twins.agree_keepNew hsame List.mem_cons_self (Handle.run_copyAs hc)
      (Handle.run_copyAs hc') (hstores.created (hw.settled_copy hfirst (Or.inr rfl)) (by simp)
        (by rw [Provenance.renumber, howns.shift_eq]))
  | moveOut name source =>
    refine Twins.agree_bind (Twins.agree_pointer (by simp [names])
      fun handle howns _ hfirst hsecond hform => ?_)
    have hmoved := hstores.movedOut (Or.inl howns) hfirst hform
    rw [howns.shift_eq] at hmoved
    exact Twins.agree_keepNew hsame List.mem_cons_self (Handle.run_moveOut hc hfirst)
      (Handle.run_moveOut hc' hsecond) hmoved
  | toReference name source =>
    refine Twins.agree_bind (Twins.agree_pointer (by simp [names])
      fun handle howns _ hfirst hsecond hform => ?_)
    by_cases hlive : handle.address ∈ twins.first.store.sites
    · exact Twins.agree_keepNew hsame List.mem_cons_self
        (Handle.run_toReference hc hfirst hform hlive)
        (Handle.run_toReference hc' hsecond hform (hstores.sites_eq ▸ hlive))
        (hstores.madeReference howns hfirst hform hlive)
    · exact Twins.agree_bind (Twins.agree_perform_of_error hsame
        (Handle.run_toReference_of_vacant hc hfirst hlive)
        (Handle.run_toReference_of_vacant hc' hsecond (hstores.sites_eq ▸ hlive)))
  | toPointer name source =>
    refine Twins.agree_bind (Twins.agree_reference (by simp [names])
      fun handle howns hfirst hsecond hform => ?_)
    refine Twins.agree_bind (Twins.agree_modify ?_)
    exact Twins.agree_keepNew (hsame.freeName (by simp [names])) List.mem_cons_self
      (Handle.run_toPointer hc hfirst) (Handle.run_toPointer hc' hsecond)
      (hstores.madePointer howns hfirst hform)
  | rename name source =>
    refine Twins.agree_bind (Twins.agree_handle (by simp [names]) fun handle howns _ _ _ => ?_)
    refine Twins.agree_bind (Twins.agree_modify ?_)
    have hfreed : twins.SessionsAgree (twins.first.freeName source)
        (twins.second.freeName source) := hsame.freeName (by simp [names])
    have hkept := Twins.agree_keep hfreed List.mem_cons_self (Or.inl howns)
    rw [howns.shift_eq] at hkept
    exact Twins.agree_bind (hkept.imp fun _ _ _ _ hafter => Twins.agree_pure ⟨rfl, hafter⟩)
  | drop name =>
    refine Twins.agree_bind (Twins.agree_handle (by simp [names]) fun handle howns _ _ _ => ?_)
    have hfreed : twins.SessionsAgree (twins.first.freeName name)
        (twins.second.freeName name) := hsame.freeName List.mem_cons_self
    have hreleased := hstores.released (Or.inl howns)
    rw [howns.shift_eq] at hreleased
    refine Twins.agree_bind (Twins.agree_modify (Twins.agree_bind (Twins.agree_perform
      (Handle.run_release hfreed.consistent handle.serial)
      (Handle.run_release hfreed.consistent' handle.serial) ?_)))
    exact Twins.agree_pure ⟨rfl, hfreed.withStore hreleased⟩

end HandleCommand

namespace ChangeCommand

variable {config : Config} {names : List String} {twins : Twins config names}
  {session session' : Session} {store store' : Store}

/-- An operation that alters both stores alike is all that such a command comes to. -/
theorem agree_act {operation operation' : Operation Unit}
    (h : twins.SessionsAgree session session') (hrun : operation session.store = .ok () store)
    (hrun' : operation' session'.store = .ok () store') (hstores : twins.StoresAgree store store') :
    twins.TurnsAgree twins.Same (act operation) (act operation') session session' :=
  Twins.agree_bind (Twins.agree_perform hrun hrun' (Twins.agree_pure ⟨rfl, h.withStore hstores⟩))

/-- A handle under one of the names that is renewed in both is all that such a command comes to. -/
theorem agree_renew {operation : Operation Unit} {handle : Handle} {slot : Slot}
    {provenance : Provenance} (howns : twins.Owns handle.serial)
    (hfirst : twins.first.store.handle? handle.serial = some handle)
    (hsettled : (twins.first.store.nextHandle handle.form slot).Settled twins.first.store)
    (hprovenance : provenance = .created ∨
      ∃ source, twins.Owns source ∧ provenance = .copied source)
    (hrun : operation twins.first.store = .ok () (twins.first.store.renewed config handle.serial
      handle.form slot provenance))
    (hrun' : operation twins.second.store = .ok () (twins.second.store.renewed config handle.serial
      handle.form slot provenance)) :
    twins.TurnsAgree twins.Same (act operation) (act operation) twins.first twins.second := by
  refine agree_act .refl hrun hrun' ?_
  have hfresh : ∀ source, provenance ≠ .moved source := by
    rcases hprovenance with rfl | ⟨source, -, rfl⟩
    · simp
    · simp
  have hsource : provenance = provenance.renumber twins.shift := by
    rcases hprovenance with rfl | ⟨source, hsource, rfl⟩
    · rfl
    · rw [Provenance.renumber, hsource.shift_eq]
  have hrenewed := Twins.StoresAgree.refl.renewed (Or.inl howns) hfirst hsettled hfresh hsource
  rwa [howns.shift_eq] at hrenewed

/-- A handle under one of the names is made to hold what another one of them holds. -/
theorem agree_assignCopy {first second : String} {pointers : Bool} (hfirst : first ∈ names)
    (hsecond : second ∈ names) :
    twins.TurnsAgree twins.Same
      (do let (handle, other) ← sameType first second pointers
          act (Handle.assignCopy config handle other))
      (do let (handle, other) ← sameType first second pointers
          act (Handle.assignCopy config handle other)) twins.first twins.second := by
  have hc := twins.first_sound.consistent
  refine Twins.agree_bind (Twins.agree_sameType hfirst hsecond
    fun a b ha hb hfirstA hsecondA hfirstB hsecondB _ hform _ => ?_)
  exact agree_renew ha hfirstA (hc.toWellFormed.settled_copy hfirstB (Or.inl hform))
    (Or.inr ⟨b.serial, hb, rfl⟩) (Handle.run_assignCopy hc hfirstA hfirstB hform.symm)
    (Handle.run_assignCopy twins.second_sound.consistent hsecondA hsecondB hform.symm)

/-- A handle under one of the names is made to hold an address that can be held. -/
theorem agree_pointAt {handle : Handle} {address : Address} {slot : Slot}
    (howns : twins.Owns handle.serial)
    (hfirst : twins.first.store.handle? handle.serial = some handle)
    (hsecond : twins.second.store.handle? handle.serial = some handle)
    (hslot : Slot.ofAddress handle.scheme address = .ok slot)
    (hsettled : (twins.first.store.nextHandle handle.form slot).Settled twins.first.store) :
    twins.TurnsAgree twins.Same (act (Handle.pointAt config handle address))
      (act (Handle.pointAt config handle address)) twins.first twins.second :=
  agree_renew howns hfirst hsettled (Or.inl rfl)
    (Handle.run_pointAt twins.first_sound.consistent hfirst hslot hsettled)
    (Handle.run_pointAt twins.second_sound.consistent hsecond hslot
      (Twins.StoresAgree.refl.settled hsettled))

/-- A bucket is replaced alike in twin sessions. -/
theorem agree_runReplaceBucket {name : String} (hname : name ∈ names) :
    twins.TurnsAgree twins.Same (runReplaceBucket config name) (runReplaceBucket config name)
      twins.first twins.second := by
  have hc := twins.first_sound.consistent
  have hw := hc.toWellFormed
  have hsame := @Twins.SessionsAgree.refl _ _ twins
  refine Twins.agree_bind (Twins.agree_pointer hname
    fun doomed howns hserial hfirst hsecond hform => ?_)
  have hguard := Handle.run_requireNotDeleted doomed twins.first.store
  have hguard' := Handle.run_requireNotDeleted doomed twins.second.store
  cases hdeleted : doomed.slot.isDeleted with
  | true =>
    rw [hdeleted, if_pos rfl] at hguard hguard'
    exact Twins.agree_bind (Twins.agree_perform_of_error hsame hguard hguard')
  | false =>
    rw [hdeleted, if_neg Bool.false_ne_true] at hguard hguard'
    have hnull := @Handle.run_null config twins.first.store doomed.scheme
    have hnull' := @Handle.run_null config twins.second.store doomed.scheme
    refine Twins.agree_bind (Twins.agree_perform hguard hguard' ?_)
    refine Twins.agree_bind (Twins.agree_perform hnull hnull' ?_)
    have hcreated := hsame.withStore (@Twins.StoresAgree.created _ _ _ _ _ .pointer _ .created
      .created hsame.toStoresAgree (Store.settled_null doomed.scheme) (by simp) rfl)
    have hfresh := @Store.handle?_created_nextSerial config _ .pointer (Slot.null doomed.scheme)
      .created hw
    have hnew : twins.Within twins.first.store.nextSerial := Or.inr (Nat.le_refl _)
    have hkept := (Twins.agree_keep hcreated hname hnew).and_ends
      (Turn.ends_keep (hc.created_null doomed.scheme))
    rw [Twins.shift_nextSerial] at hkept
    refine Twins.agree_bind (hkept.imp ?_)
    rintro _ _ kept kept' ⟨hagree, hbound, hstore⟩
    -- Only the doomed bucket can have gone, so that the new one is still there.
    have hbucket : kept.store.handle? twins.first.store.nextSerial =
        some (twins.first.store.nextHandle .pointer (Slot.null doomed.scheme)) := by
      rcases hstore with hstays | ⟨old, hold, hreleased⟩
      · rw [hstays]
        exact hfresh
      · obtain rfl : doomed.serial = old := Option.some.inj (hserial.symm.trans hold)
        rw [hreleased]
        exact (Store.handle?_released (hw.ne_nextSerial hfirst).symm).trans hfresh
    have hbucket' := hagree.handle?_eq hnew hbucket
    have hbound' : kept'.serial? name = some (twins.shift twins.first.store.nextSerial) := by
      rw [hagree.serial?_eq name hname, hbound, Option.map_some]
    refine Twins.agree_bind (Twins.agree_pointer_of_found
      (by rw [Session.handle?, hbound]; exact hbucket)
      (by rw [Session.handle?, hbound']; exact hbucket') rfl rfl ?_)
    exact agree_act hagree (Handle.run_markDeleted hagree.consistent hbucket rfl)
      (Handle.run_markDeleted hagree.consistent' hbucket' rfl)
      (hagree.renewed hnew hbucket (Store.settled_deleted _) (by simp) rfl)

/-- A command that changes handles comes to the same on twin sessions. -/
theorem agree_run (command : ChangeCommand) (twins : Twins config command.names) :
    twins.TurnsAgree twins.Same (command.run config) (command.run config) twins.first
      twins.second := by
  have hc := twins.first_sound.consistent
  have hc' := twins.second_sound.consistent
  have hw := hc.toWellFormed
  have hstores := @Twins.StoresAgree.refl _ _ twins
  have hsame := @Twins.SessionsAgree.refl _ _ twins
  cases command with
  | assignPointer name source => exact agree_assignCopy (by simp [names]) (by simp [names])
  | assignMove name source =>
    refine Twins.agree_bind (Twins.agree_sameType (by simp [names]) (by simp [names])
      fun a b ha hb hfirstA hsecondA hfirstB hsecondB hne hform hpointer => ?_)
    have hformA := hpointer rfl
    have hformB := hform.symm.trans hformA
    have hmoved := hstores.movedOut (Or.inl hb) hfirstB hformB
    have hgiven := hmoved.reassigned (Or.inl ha) (Or.inr (Nat.le_refl _))
      (Store.handle?_movedOut_of_ne hc hfirstB hfirstA hne)
      (Store.handle?_movedOut_nextSerial hc hfirstB) hformA
    rw [ha.shift_eq, hb.shift_eq, Twins.shift_nextSerial] at hgiven
    exact agree_act hsame (Handle.run_assignMove hc hfirstA hfirstB hformA hformB hne)
      (Handle.run_assignMove hc' hsecondA hsecondB hformA hformB hne) hgiven
  | assignHandle name source => exact agree_assignCopy (by simp [names]) (by simp [names])
  | swap name other =>
    refine Twins.agree_bind (Twins.agree_sameType (by simp [names]) (by simp [names])
      fun a b ha hb hfirstA hsecondA hfirstB hsecondB _ hform _ => ?_)
    have hswapped := hstores.swapped (Or.inl ha) (Or.inl hb) hfirstA hfirstB hform
    rw [ha.shift_eq, hb.shift_eq] at hswapped
    exact agree_act hsame (Handle.run_swap hc hfirstA hfirstB)
      (Handle.run_swap hc' hsecondA hsecondB) hswapped
  | pointAt name referentName =>
    refine Twins.agree_bind (Twins.agree_referent fun referent referent' hfound haddress => ?_)
    rw [haddress]
    refine Twins.agree_bind (Twins.agree_handle (by simp [names])
      fun handle howns _ hfirst hsecond => ?_)
    have hsite := Store.mem_sites_of_referent? hfound
    obtain ⟨slot, hslot⟩ := Slot.exists_ofAddress_of_isSite (hw.isSite _ hsite) handle.scheme
    exact agree_pointAt howns hfirst hsecond hslot (Store.settled_of_site hsite hslot)
  | pointAtAddress name place =>
    refine Twins.agree_bind (Twins.agree_handle (by simp [names])
      fun handle howns _ hfirst hsecond => ?_)
    refine Twins.agree_bind (Twins.agree_resolveFor fun address hallows => ?_)
    cases hslot : Slot.ofAddress handle.scheme address with
    | ok slot =>
      exact agree_pointAt howns hfirst hsecond hslot (Store.settled_of_allows hallows hslot)
    | error cause =>
      exact Twins.agree_bind (Twins.agree_perform_of_error hsame
        (Handle.run_pointAt_of_error hslot) (Handle.run_pointAt_of_error hslot))
  | clear name =>
    refine Twins.agree_bind (Twins.agree_pointer (by simp [names])
      fun handle howns _ hfirst hsecond hform => ?_)
    exact agree_renew howns hfirst (Or.inl ⟨hform, Slot.target?_null _⟩) (Or.inl rfl)
      (Handle.run_clear hc hfirst hform) (Handle.run_clear hc' hsecond hform)
  | markDeleted name =>
    refine Twins.agree_bind (Twins.agree_pointer (by simp [names])
      fun handle howns _ hfirst hsecond hform => ?_)
    exact agree_renew howns hfirst (Or.inl ⟨hform, Slot.target?_deleted _⟩) (Or.inl rfl)
      (Handle.run_markDeleted hc hfirst hform) (Handle.run_markDeleted hc' hsecond hform)
  | vacateBucket name =>
    refine Twins.agree_bind (Twins.agree_pointer (by simp [names])
      fun handle howns _ hfirst hsecond hform => ?_)
    cases hdeleted : handle.slot.isDeleted with
    | false =>
      exact agree_act hsame (Handle.run_vacateBucket hc hfirst hform hdeleted)
        (Handle.run_vacateBucket hc' hsecond hform hdeleted) (hstores.vacated howns hfirst hform)
    | true =>
      exact Twins.agree_bind (Twins.agree_perform_of_error hsame
        (Handle.run_vacateBucket_of_deleted hdeleted)
        (Handle.run_vacateBucket_of_deleted hdeleted))
  | replaceBucket name => exact agree_runReplaceBucket List.mem_cons_self

end ChangeCommand

end CountedHandles
