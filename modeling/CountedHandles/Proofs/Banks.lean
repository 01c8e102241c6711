import CountedHandles.Proofs.Storage
import CountedHandles.Slot.Bank
import Mathlib.Algebra.Order.Group.Multiset
import Mathlib.Tactic.Abel

/-!
# Banks keep their books

Requests move addresses between the slots of a bank, bring new ones and hand old ones back; no
address is lost or made on the way. What a slot holds in the end can be followed back to what was in
the bank at the beginning or to a request that brought it, and in a packed bank only such a way from
the mark of a deleted bucket leads to a slot that holds it.
-/

namespace CountedHandles.Bank

/-- What a request brings into a bank. -/
inductive Supply where
  /-- An address that comes with the request. -/
  | given (address : Address)
  /-- The mark of a deleted bucket. -/
  | mark

/-- The address that is brought. -/
def Supply.address (scheme : Scheme) : Supply → Address
  | .given address => address
  | .mark => (Slot.deleted scheme).address

/-- The slot that keeps what is brought, if the scheme has room for it. -/
def Supply.slot (scheme : Scheme) : Supply → Except Panic Slot
  | .given address => Slot.ofAddress scheme address
  | .mark => .ok (Slot.deleted scheme)

/-- Where the content of a slot comes from. -/
inductive Origin where
  /-- It was in the bank at the beginning, in the slot at a position. -/
  | found (position : Nat)
  /-- A request brought it. -/
  | brought (supply : Supply)

namespace Request

/-- What a request appends to the bank. -/
def appended? : Request → Option Supply
  | .appendNull => some (.given Address.null)
  | .appendDeleted => some .mark
  | .append given => some (.given given)
  | .appendPackedZero => some (.given Address.null)
  | .appendPacked given => some (.given given)
  | _ => none

/-- The requests that leave the slots alone. -/
def Looks : Request → Prop
  | .equal _ _ => True
  | .address _ => True
  | .isNull _ => True
  | .isDeleted _ => True
  | .debug _ _ => True
  | .hash _ => True
  | _ => False

/-- The addresses that a request brings when it is followed. -/
def supplied (scheme : Scheme) : Request → Multiset Address
  | .exchange _ given => {given}
  | request => (request.appended?.map (Supply.address scheme)).toList

/-- The addresses that a request hands back with its answer. -/
def returned : Request → Answer → Multiset Address
  | .exchange _ _, .address old => {old}
  | _, _ => 0

/-- Where the contents of the slots come from once a request has been followed. -/
def redirect (origins : List Origin) : Request → List Origin
  | .exchange position given => origins.set position (.brought (.given given))
  | .swap first second =>
    match origins[first]?, origins[second]? with
    | some a, some b => (origins.set first b).set second a
    | _, _ => origins
  | request => origins ++ (request.appended?.map Origin.brought).toList

end Request

/-- A request that was followed, and its answer. -/
def Step.followed? (step : Step) (request : Option Request) : Option (Request × Answer) :=
  match request, step.result with
  | some request, .ok answer => some (request, answer)
  | _, _ => none

/-- The requests that a bank follows, each with its answer. -/
def followed (bank : Bank) (requests : List (Option Request)) : List (Request × Answer) :=
  (requests.zip (bank.run requests).1).filterMap fun entry => entry.2.followed? entry.1

/-- The addresses in all slots. -/
def held (bank : Bank) : Multiset Address :=
  bank.slots.map Slot.address

/-- The addresses that requests bring into a bank. -/
def supplied (bank : Bank) (requests : List (Option Request)) : Multiset Address :=
  ((bank.followed requests).map fun entry => entry.1.supplied bank.scheme).sum

/-- The addresses that requests get out of a bank. -/
def returned (bank : Bank) (requests : List (Option Request)) : Multiset Address :=
  ((bank.followed requests).map fun entry => entry.1.returned entry.2).sum

/-- Where the contents of the slots come from at the end of requests. -/
def origins (bank : Bank) (requests : List (Option Request)) : List Origin :=
  (bank.followed requests).foldl (fun row entry => entry.1.redirect row)
    ((List.range bank.slots.length).map Origin.found)

/-- All slots of a bank keep their addresses in its way. -/
def Uniform (bank : Bank) : Prop :=
  ∀ slot ∈ bank.slots, slot.scheme = bank.scheme

/-- A slot holds what its content comes from. -/
def Explains (bank : Bank) (slot : Slot) : Origin → Prop
  | .found position => bank.slots[position]? = some slot
  | .brought supply => supply.slot bank.scheme = .ok slot

/-- What a bank does with exchanges and swaps, and with requests that it cannot follow. -/
structure Serves (bank : Bank) : Prop where
  /-- An exchange puts an address that has room in the slot and answers the old one. -/
  exchange : ∀ position old address, bank.slots[position]? = some old →
    (bank.scheme = .packed → address.toNat < 0xffffffffffff) →
    ∃ new, Slot.ofAddress bank.scheme address = .ok new ∧ new.address = address ∧
      (bank.step (some (.exchange position address))).1.result = .ok (.address old.address) ∧
      (bank.step (some (.exchange position address))).2 = bank.put position new
  /-- A swap exchanges the contents of two different slots. -/
  swap : ∀ first second a b, first ≠ second → bank.slots[first]? = some a →
    bank.slots[second]? = some b →
    (bank.step (some (.swap first second))).1.result = .ok .done ∧
      (bank.step (some (.swap first second))).2 = (bank.put first b).put second a
  /-- An exchange panics exactly if a packed slot has no room for the address. -/
  panics_iff : ∀ position address cause,
    (bank.step (some (.exchange position address))).1.result = .error (.panicked cause) ↔
      position < bank.slots.length ∧ bank.scheme = .packed ∧
        0xffffffffffff ≤ address.toNat ∧ cause = .doesNotFit address
  /-- A request that fails leaves every slot as it was. -/
  unchanged : ∀ request failure, (bank.step request).1.result = .error failure →
    (bank.step request).2 = bank

/-- A content comes from a mark of a deleted bucket. -/
def ComesFromMark (bank : Bank) : Origin → Prop
  | .found position => ∃ slot, bank.slots[position]? = some slot ∧ slot.isDeleted = true
  | .brought (.given _) => False
  | .brought .mark => True

/-- What following a request does to a bank. -/
inductive Effect (bank : Bank) : Request → Answer → Bank → Prop
  | appended {request supply slot} (hrequest : request.appended? = some supply)
      (hslot : supply.slot bank.scheme = .ok slot) : Effect bank request .done (bank.push slot)
  | exchanged {position address old new} (hold : bank.slots[position]? = some old)
      (hnew : Slot.ofAddress old.scheme address = .ok new) :
      Effect bank (.exchange position address) (.address old.address) (bank.put position new)
  | swapped {first second a b} (ha : bank.slots[first]? = some a)
      (hb : bank.slots[second]? = some b) :
      Effect bank (.swap first second) .done ((bank.put first b).put second a)
  | looked {request answer} (hrequest : request.Looks) : Effect bank request answer bank

variable {bank after : Bank} {request : Request} {requests : List (Option Request)}
variable {answer : Answer} {position first second : Nat} {address : Address} {slot : Slot}

/-- A change goes on from the answer of its first part. -/
theorem run_bind_of_ok {α β : Type} {change : Change α} {next : α → Change β} {result : α}
    (h : change bank = .ok result after) : (change >>= next) bank = next result after := by
  simp only [bind, EStateM.bind, h]

/-- A change ends where its first part fails. -/
theorem run_bind_of_error {α β : Type} {change : Change α} {next : α → Change β}
    {failure : Failure} (h : change bank = .error failure after) :
    (change >>= next) bank = .error failure after := by
  simp only [bind, EStateM.bind, h]

/-- A position within the row leads to its slot. -/
theorem run_slotAt (h : bank.slots[position]? = some slot) :
    slotAt position bank = .ok slot bank := by
  unfold slotAt
  refine (run_bind_of_ok rfl).trans ?_
  simp only [h]
  rfl

/-- A position beyond the row is refused. -/
theorem run_slotAt_of_none (h : bank.slots[position]? = none) :
    slotAt position bank = .error .refused bank := by
  unfold slotAt
  refine (run_bind_of_ok rfl).trans ?_
  simp only [h]
  rfl

/-- A slot that is put where it is changes nothing. -/
theorem put_self (h : bank.slots[position]? = some slot) : bank.put position slot = bank := by
  obtain ⟨hlength, rfl⟩ := List.getElem?_eq_some_iff.mp h
  rw [put, List.set_getElem_self]

/-- Appending an address that has room appends the slot that holds it. -/
theorem appendAddress_of_ok (h : Slot.ofAddress bank.scheme address = .ok slot) :
    appendAddress address bank = .ok .done (bank.push slot) := by
  unfold appendAddress
  refine (run_bind_of_ok rfl).trans ?_
  simp only [h]
  rfl

/-- Appending an address that has no room panics. -/
theorem appendAddress_of_error {cause : Panic}
    (h : Slot.ofAddress bank.scheme address = .error cause) :
    appendAddress address bank = .error (.panicked cause) bank := by
  unfold appendAddress
  refine (run_bind_of_ok rfl).trans ?_
  simp only [h]
  rfl

/-- An exchange puts an address that has room in the slot and answers the old one. -/
theorem exchange_of_ok {old new : Slot} (hold : bank.slots[position]? = some old)
    (hnew : Slot.ofAddress old.scheme address = .ok new) :
    exchange position address bank = .ok (.address old.address) (bank.put position new) := by
  refine (run_bind_of_ok (run_slotAt hold)).trans ?_
  simp only [Slot.exchange_of_ok hnew]
  rfl

/-- An exchange panics with an address that has no room, and every slot stays as it was. -/
theorem exchange_of_error {old : Slot} {cause : Panic} (hold : bank.slots[position]? = some old)
    (hnew : Slot.ofAddress old.scheme address = .error cause) :
    exchange position address bank = .error (.panicked cause) bank := by
  refine (run_bind_of_ok (run_slotAt hold)).trans ?_
  simp only [Slot.exchange_of_error hnew]
  exact congrArg _ (put_self hold)

/-- An exchange is refused where there is no slot. -/
theorem exchange_of_none (h : bank.slots[position]? = none) :
    exchange position address bank = .error .refused bank :=
  run_bind_of_error (run_slotAt_of_none h)

/-- Two different slots change their contents. -/
theorem swap_of_ne {a b : Slot} (ha : bank.slots[first]? = some a)
    (hb : bank.slots[second]? = some b) (hne : first ≠ second) :
    swap first second bank = .ok .done ((bank.put first b).put second a) := by
  refine (run_bind_of_ok (run_slotAt ha)).trans ((run_bind_of_ok (run_slotAt hb)).trans ?_)
  rw [if_neg hne]
  rfl

/-- A slot does not change its content with itself. -/
theorem swap_of_eq {a b : Slot} (ha : bank.slots[first]? = some a)
    (hb : bank.slots[second]? = some b) (heq : first = second) :
    swap first second bank = .error .refused bank := by
  refine (run_bind_of_ok (run_slotAt ha)).trans ((run_bind_of_ok (run_slotAt hb)).trans ?_)
  rw [if_pos heq]
  rfl

/-- A packed bank makes a change that is meant for packed banks. -/
theorem onlyPacked_of_packed {change : Change Answer} (h : bank.scheme = .packed) :
    onlyPacked change bank = change bank := by
  unfold onlyPacked
  exact (run_bind_of_ok rfl).trans (by rw [if_pos h])

/-- A raw bank refuses a change that is meant for packed banks. -/
theorem onlyPacked_of_ne {change : Change Answer} (h : bank.scheme ≠ .packed) :
    onlyPacked change bank = .error .refused bank := by
  unfold onlyPacked
  refine (run_bind_of_ok rfl).trans ?_
  rw [if_neg h]
  rfl

/-- Every scheme has room for null. -/
theorem Supply.slot_given_null (scheme : Scheme) :
    (Supply.given Address.null).slot scheme = .ok (Slot.null scheme) :=
  Slot.ofAddress_eq_ok_iff.mpr
    ⟨Slot.scheme_null scheme, Slot.address_null scheme, fun _ => by decide⟩

/-- A request is followed with one of the effects, or it fails and leaves the bank as it was. -/
def Resolves (bank : Bank) (request : Request) : Prop :=
  (∃ answer after, perform request bank = .ok answer after ∧ Effect bank request answer after) ∨
    ∃ failure, perform request bank = .error failure bank

/-- A request to append an address is followed if there is room for it. -/
theorem resolves_append (hrequest : request.appended? = some (.given address))
    (hperform : perform request bank = appendAddress address bank) : bank.Resolves request := by
  cases hslot : Slot.ofAddress bank.scheme address with
  | ok slot =>
    exact Or.inl ⟨_, _, hperform.trans (appendAddress_of_ok hslot), .appended hrequest hslot⟩
  | error cause => exact Or.inr ⟨_, hperform.trans (appendAddress_of_error hslot)⟩

/-- A question about one slot is answered if there is such a slot. -/
theorem resolves_look {question : Slot → Answer} (hrequest : request.Looks)
    (hperform : perform request bank = look position question bank) : bank.Resolves request := by
  cases hslot : bank.slots[position]? with
  | some slot =>
    exact Or.inl ⟨_, _, hperform.trans (run_bind_of_ok (run_slotAt hslot)), .looked hrequest⟩
  | none => exact Or.inr ⟨_, hperform.trans (run_bind_of_error (run_slotAt_of_none hslot))⟩

/-- An exchange is followed if there is a slot that has room for the address. -/
theorem resolves_exchange : bank.Resolves (.exchange position address) := by
  cases hold : bank.slots[position]? with
  | none => exact Or.inr ⟨_, exchange_of_none hold⟩
  | some old =>
    cases hnew : Slot.ofAddress old.scheme address with
    | ok new => exact Or.inl ⟨_, _, exchange_of_ok hold hnew, .exchanged hold hnew⟩
    | error cause => exact Or.inr ⟨_, exchange_of_error hold hnew⟩

/-- A swap is followed if there are two different slots. -/
theorem resolves_swap : bank.Resolves (.swap first second) := by
  cases ha : bank.slots[first]? with
  | none => exact Or.inr ⟨_, run_bind_of_error (run_slotAt_of_none ha)⟩
  | some a =>
    cases hb : bank.slots[second]? with
    | none =>
      exact Or.inr ⟨_, (run_bind_of_ok (run_slotAt ha)).trans
        (run_bind_of_error (run_slotAt_of_none hb))⟩
    | some b =>
      by_cases heq : first = second
      · exact Or.inr ⟨_, swap_of_eq ha hb heq⟩
      · exact Or.inl ⟨_, _, swap_of_ne ha hb heq, .swapped ha hb⟩

/-- A comparison is answered if there are both slots. -/
theorem resolves_equal : bank.Resolves (.equal first second) := by
  cases ha : bank.slots[first]? with
  | none => exact Or.inr ⟨_, run_bind_of_error (run_slotAt_of_none ha)⟩
  | some a =>
    cases hb : bank.slots[second]? with
    | none =>
      exact Or.inr ⟨_, (run_bind_of_ok (run_slotAt ha)).trans
        (run_bind_of_error (run_slotAt_of_none hb))⟩
    | some b =>
      exact Or.inl ⟨_, _, (run_bind_of_ok (run_slotAt ha)).trans
        (run_bind_of_ok (run_slotAt hb)), .looked trivial⟩

/-- Every request is followed with one of the effects, or it fails and leaves the bank as it was. -/
theorem resolves (bank : Bank) (request : Request) : bank.Resolves request := by
  cases request with
  | appendNull => exact Or.inl ⟨_, _, rfl, .appended rfl (Supply.slot_given_null _)⟩
  | appendDeleted => exact Or.inl ⟨_, _, rfl, .appended rfl rfl⟩
  | append given => exact resolves_append rfl rfl
  | appendPackedZero =>
    by_cases hscheme : bank.scheme = .packed
    · exact Or.inl ⟨_, _, onlyPacked_of_packed hscheme,
        .appended rfl (hscheme ▸ Supply.slot_given_null _)⟩
    · exact Or.inr ⟨_, onlyPacked_of_ne hscheme⟩
  | appendPacked given =>
    by_cases hscheme : bank.scheme = .packed
    · exact resolves_append rfl (onlyPacked_of_packed hscheme)
    · exact Or.inr ⟨_, onlyPacked_of_ne hscheme⟩
  | exchange position given => exact resolves_exchange
  | swap first second => exact resolves_swap
  | equal first second => exact resolves_equal
  | address position => exact resolves_look trivial rfl
  | isNull position => exact resolves_look trivial rfl
  | isDeleted position => exact resolves_look trivial rfl
  | debug position full => exact resolves_look trivial rfl
  | hash position => exact resolves_look trivial rfl

/-- A request is followed with its effect, or it fails and changes nothing. -/
theorem step_cases (bank : Bank) (request : Option Request) :
    (∃ followed answer, (bank.step request).1.followed? request = some (followed, answer) ∧
      Effect bank followed answer (bank.step request).2) ∨
    (bank.step request).1.followed? request = none ∧ (bank.step request).2 = bank := by
  cases request with
  | none => exact Or.inr ⟨rfl, rfl⟩
  | some request =>
    rcases bank.resolves request with ⟨answer, after, hperform, heffect⟩ | ⟨failure, hperform⟩
    · simp only [step, hperform]
      exact Or.inl ⟨request, answer, rfl, heffect⟩
    · simp only [step, hperform]
      exact Or.inr ⟨rfl, trivial⟩

/-- Requests are followed one after the other. -/
theorem run_cons (bank : Bank) (request : Option Request) (requests : List (Option Request)) :
    bank.run (request :: requests) =
      ((bank.step request).1 :: ((bank.step request).2.run requests).1,
        ((bank.step request).2.run requests).2) :=
  rfl

/-- What is followed first comes first. -/
theorem followed_cons (bank : Bank) (request : Option Request) (requests : List (Option Request)) :
    bank.followed (request :: requests) =
      ((bank.step request).1.followed? request).toList ++
        (bank.step request).2.followed requests := by
  rw [followed, run_cons, List.zip_cons_cons, List.filterMap_cons]
  cases (bank.step request).1.followed? request <;> rfl

/-- What holds at the beginning and is kept by every effect holds at the end. -/
theorem run_invariant (P : List (Request × Answer) → Bank → Prop)
    (heffect : ∀ done before request answer after,
      P done before → Effect before request answer after → P (done ++ [(request, answer)]) after)
    (done : List (Request × Answer)) (hbank : P done bank) :
    P (done ++ bank.followed requests) (bank.run requests).2 := by
  induction requests generalizing bank done with
  | nil => simpa [followed, run] using hbank
  | cons request rest ih =>
    rw [followed_cons, run_cons, ← List.append_assoc]
    obtain ⟨request, answer, hfollowed, hafter⟩ | ⟨hfollowed, hafter⟩ := step_cases bank request
    · rw [hfollowed]
      exact ih _ (heffect _ _ _ _ _ hbank hafter)
    · rw [hfollowed, hafter]
      exact ih _ (by simpa using hbank)

/-- A slot that keeps a supply holds the address that was brought. -/
theorem Supply.address_of_slot {scheme : Scheme} {supply : Supply}
    (h : supply.slot scheme = .ok slot) : slot.address = supply.address scheme := by
  cases supply with
  | given given => exact Slot.address_of_ofAddress h
  | mark =>
    cases h
    rfl

/-- A slot that keeps a supply belongs to the scheme. -/
theorem Supply.scheme_of_slot {scheme : Scheme} {supply : Supply}
    (h : supply.slot scheme = .ok slot) : slot.scheme = scheme := by
  cases supply with
  | given given => exact Slot.scheme_of_ofAddress h
  | mark =>
    cases h
    exact Slot.scheme_deleted scheme

namespace Request

variable {scheme : Scheme} {supply : Supply} {origins : List Origin}

/-- A request that appends brings just what it appends. -/
theorem supplied_of_appended (h : request.appended? = some supply) :
    request.supplied scheme = {supply.address scheme} := by
  cases request <;> cases h <;> rfl

/-- A request that appends hands nothing back. -/
theorem returned_of_appended (h : request.appended? = some supply) :
    request.returned answer = 0 := by
  cases request <;> cases h <;> rfl

/-- A request that appends adds the origin of the new slot at the end. -/
theorem redirect_of_appended (h : request.appended? = some supply) :
    request.redirect origins = origins ++ [.brought supply] := by
  cases request <;> cases h <;> rfl

/-- A look brings nothing. -/
theorem Looks.supplied_eq (h : request.Looks) : request.supplied scheme = 0 := by
  cases request <;> first | exact h.elim | rfl

/-- A look hands nothing back. -/
theorem Looks.returned_eq (h : request.Looks) : request.returned answer = 0 := by
  cases request <;> first | exact h.elim | rfl

/-- A look moves nothing. -/
theorem Looks.redirect_eq (h : request.Looks) : request.redirect origins = origins := by
  cases request <;> first | exact h.elim | exact List.append_nil origins

end Request

/-- Setting an entry trades the old one for the new one. -/
theorem set_add_singleton {α : Type} {row : List α} {old new : α}
    (h : row[position]? = some old) :
    (row.set position new + {old} : Multiset α) = row + {new} := by
  obtain ⟨hposition, rfl⟩ := List.getElem?_eq_some_iff.mp h
  have hset : (row.set position new : Multiset α) = new ::ₘ row.eraseIdx position :=
    Multiset.coe_eq_coe.mpr (List.set_perm_cons_eraseIdx hposition new)
  have hrow : (row : Multiset α) = row[position] ::ₘ row.eraseIdx position :=
    (Multiset.coe_eq_coe.mpr (List.getElem_cons_eraseIdx_perm hposition)).symm
  rw [hset, hrow, ← Multiset.singleton_add, ← Multiset.singleton_add]
  abel

/-- Setting two entries to each other keeps all of them. -/
theorem coe_set_set {α : Type} {row : List α} {a b : α} (ha : row[first]? = some a)
    (hb : row[second]? = some b) :
    ((row.set first b).set second a : Multiset α) = row := by
  obtain ⟨hfirst, rfl⟩ := List.getElem?_eq_some_iff.mp ha
  obtain ⟨hsecond, rfl⟩ := List.getElem?_eq_some_iff.mp hb
  exact Multiset.coe_eq_coe.mpr (List.set_set_perm hfirst hsecond)

/-- A position of a slot is a position of its address. -/
theorem getElem?_map_address (h : bank.slots[position]? = some slot) :
    (bank.slots.map Slot.address)[position]? = some slot.address := by
  rw [List.getElem?_map, h, Option.map_some]

/-- No effect loses an address or makes one. -/
theorem Effect.held_add_returned (h : Effect bank request answer after) :
    after.held + request.returned answer = bank.held + request.supplied bank.scheme := by
  cases h with
  | appended hrequest hslot =>
    rw [Request.supplied_of_appended hrequest, Request.returned_of_appended hrequest,
      ← Supply.address_of_slot hslot, add_zero, held, held, push, List.map_append,
      ← Multiset.coe_add]
    rfl
  | exchanged hold hnew =>
    rw [held, put, List.map_set, Slot.address_of_ofAddress hnew]
    exact set_add_singleton (getElem?_map_address hold)
  | swapped ha hb =>
    rw [held, put, put, List.map_set, List.map_set]
    exact congrArg (· + 0) (coe_set_set (getElem?_map_address ha) (getElem?_map_address hb))
  | looked hrequest =>
    rw [hrequest.supplied_eq, hrequest.returned_eq]

/-- No effect changes the way in which slots keep their addresses. -/
theorem Effect.scheme_eq (h : Effect bank request answer after) : after.scheme = bank.scheme := by
  cases h <;> rfl

/-- Over all requests no address is lost or made. -/
theorem held_add_returned (bank : Bank) (requests : List (Option Request)) :
    (bank.run requests).2.held + bank.returned requests = bank.held + bank.supplied requests := by
  refine (run_invariant
    (fun done after => after.scheme = bank.scheme ∧
      after.held + (done.map fun entry => entry.1.returned entry.2).sum =
        bank.held + (done.map fun entry => entry.1.supplied bank.scheme).sum)
    ?_ [] ⟨rfl, rfl⟩).2
  rintro done before request answer after ⟨hscheme, hheld⟩ heffect
  refine ⟨heffect.scheme_eq.trans hscheme, ?_⟩
  have hstep := heffect.held_add_returned
  rw [hscheme] at hstep
  simp only [List.map_append, List.map_cons, List.map_nil, List.sum_append, List.sum_singleton]
  calc after.held + ((done.map fun entry => entry.1.returned entry.2).sum + request.returned answer)
      = (after.held + request.returned answer) +
          (done.map fun entry => entry.1.returned entry.2).sum := by abel
    _ = (before.held + request.supplied bank.scheme) +
          (done.map fun entry => entry.1.returned entry.2).sum := by rw [hstep]
    _ = (before.held + (done.map fun entry => entry.1.returned entry.2).sum) +
          request.supplied bank.scheme := by abel
    _ = bank.held + (done.map fun entry => entry.1.supplied bank.scheme).sum +
          request.supplied bank.scheme := by rw [hheld]
    _ = _ := add_assoc _ _ _

/-- An effect keeps all slots in the way of the bank. -/
theorem Effect.uniform (h : Effect bank request answer after) (hbank : bank.Uniform) :
    after.Uniform := by
  cases h with
  | appended hrequest hslot =>
    intro slot hmem
    obtain hmem | hmem := List.mem_append.mp hmem
    · exact hbank slot hmem
    · rw [List.mem_singleton.mp hmem]
      exact Supply.scheme_of_slot hslot
  | exchanged hold hnew =>
    intro slot hmem
    obtain hmem | rfl := List.mem_or_eq_of_mem_set hmem
    · exact hbank slot hmem
    · rw [Slot.scheme_of_ofAddress hnew]
      exact hbank _ (List.mem_of_getElem? hold)
  | swapped ha hb =>
    intro slot hmem
    obtain hmem | rfl := List.mem_or_eq_of_mem_set hmem
    · obtain hmem | rfl := List.mem_or_eq_of_mem_set hmem
      · exact hbank slot hmem
      · exact hbank _ (List.mem_of_getElem? hb)
    · exact hbank _ (List.mem_of_getElem? ha)
  | looked hrequest => exact hbank

/-- Two rows stay matched when an entry is set on both sides. -/
theorem forall₂_set {α β : Type} {R : α → β → Prop} {row : List α} {other : List β} {x : α} {y : β}
    (h : List.Forall₂ R row other) (hxy : R x y) (position : Nat) :
    List.Forall₂ R (row.set position x) (other.set position y) := by
  induction h generalizing position with
  | nil => exact .nil
  | cons hhead htail ih =>
    cases position with
    | zero => exact .cons hxy htail
    | succ position => exact .cons hhead (ih position)

/-- An entry of the second row has its match in the first. -/
theorem exists_of_forall₂ {α β : Type} {R : α → β → Prop} {row : List α} {other : List β} {y : β}
    (h : List.Forall₂ R row other) (hy : other[position]? = some y) :
    ∃ x, row[position]? = some x ∧ R x y := by
  obtain ⟨hother, rfl⟩ := List.getElem?_eq_some_iff.mp hy
  have hrow : position < row.length := h.length_eq ▸ hother
  exact ⟨row[position], List.getElem?_eq_getElem hrow, h.get hrow hother⟩

/-- At the beginning every slot explains itself. -/
theorem explains_found (bank : Bank) :
    List.Forall₂ (fun origin slot => bank.Explains slot origin)
      ((List.range bank.slots.length).map Origin.found) bank.slots := by
  rw [List.forall₂_map_left_iff, List.forall₂_iff_get]
  refine ⟨List.length_range, fun position hrange hslots => ?_⟩
  rw [List.get_eq_getElem, List.get_eq_getElem, List.getElem_range]
  exact List.getElem?_eq_getElem hslots

/-- An effect redirects the origins as it moves the contents. -/
theorem Effect.explains {start : Bank} {origins : List Origin}
    (h : Effect bank request answer after) (hscheme : bank.scheme = start.scheme)
    (huniform : bank.Uniform)
    (hrow : List.Forall₂ (fun origin slot => start.Explains slot origin) origins bank.slots) :
    List.Forall₂ (fun origin slot => start.Explains slot origin) (request.redirect origins)
      after.slots := by
  cases h with
  | appended hrequest hslot =>
    rw [Request.redirect_of_appended hrequest]
    rw [hscheme] at hslot
    have hexplains : start.Explains _ (.brought _) := hslot
    exact List.rel_append hrow (.cons hexplains .nil)
  | exchanged hold hnew =>
    rw [huniform _ (List.mem_of_getElem? hold), hscheme] at hnew
    have hexplains : start.Explains _ (.brought (.given _)) := hnew
    exact forall₂_set hrow hexplains _
  | swapped ha hb =>
    obtain ⟨first, hfirst, hexplainsFirst⟩ := exists_of_forall₂ hrow ha
    obtain ⟨second, hsecond, hexplainsSecond⟩ := exists_of_forall₂ hrow hb
    simp only [Request.redirect, hfirst, hsecond]
    exact forall₂_set (forall₂_set hrow hexplainsSecond _) hexplainsFirst _
  | looked hrequest =>
    rw [hrequest.redirect_eq]
    exact hrow

/-- Every slot holds in the end what its content comes from. -/
theorem run_explains (huniform : bank.Uniform) (requests : List (Option Request)) :
    List.Forall₂ (fun origin slot => bank.Explains slot origin) (bank.origins requests)
      (bank.run requests).2.slots := by
  refine (run_invariant
    (fun done after => after.scheme = bank.scheme ∧ after.Uniform ∧
      List.Forall₂ (fun origin slot => bank.Explains slot origin)
        (done.foldl (fun row entry => entry.1.redirect row)
          ((List.range bank.slots.length).map Origin.found)) after.slots)
    ?_ [] ⟨rfl, huniform, explains_found bank⟩).2.2
  rintro done before request answer after ⟨hscheme, huniform, hrow⟩ heffect
  refine ⟨heffect.scheme_eq.trans hscheme, heffect.uniform huniform, ?_⟩
  rw [List.foldl_append]
  exact heffect.explains hscheme huniform hrow

/-- In a packed bank a slot holds the mark of a deleted bucket exactly if its content comes from
one. -/
theorem isDeleted_iff_comesFromMark {origin : Origin} (hscheme : bank.scheme = .packed)
    (h : bank.Explains slot origin) : slot.isDeleted = true ↔ bank.ComesFromMark origin := by
  cases origin with
  | found position =>
    refine ⟨fun hdeleted => ⟨slot, h, hdeleted⟩, ?_⟩
    rintro ⟨start, hstart, hdeleted⟩
    cases hstart.symm.trans h
    exact hdeleted
  | brought supply =>
    cases supply with
    | given given =>
      have hmade : Slot.ofAddress .packed given = .ok slot := hscheme ▸ h
      simp [Slot.isDeleted_of_ofAddress_packed hmade, ComesFromMark]
    | mark =>
      cases h
      simp [ComesFromMark]

/-- A request that fails changes nothing. -/
theorem step_of_error {request : Option Request} {failure : Failure}
    (h : (bank.step request).1.result = .error failure) : (bank.step request).2 = bank := by
  obtain ⟨followed, answer, hfollowed, -⟩ | ⟨-, hkept⟩ := step_cases bank request
  · cases request <;> simp [Step.followed?, h] at hfollowed
  · exact hkept

/-- An exchange panics exactly if it finds a packed slot and gives an address that has no room. -/
theorem exchange_panics_iff {cause : Panic} (huniform : bank.Uniform) :
    (bank.step (some (.exchange position address))).1.result = .error (.panicked cause) ↔
      position < bank.slots.length ∧ bank.scheme = .packed ∧
        SixBytes.reserved ≤ address.toNat ∧ cause = .doesNotFit address := by
  rw [← Slot.ofAddress_eq_error_iff]
  cases hold : bank.slots[position]? with
  | none =>
    have hlength := List.getElem?_eq_none_iff.mp hold
    have hfail : perform (.exchange position address) bank = _ := exchange_of_none hold
    simp [step, hfail, hlength]
  | some old =>
    obtain ⟨hlength, -⟩ := List.getElem?_eq_some_iff.mp hold
    rw [← huniform old (List.mem_of_getElem? hold)]
    cases hnew : Slot.ofAddress old.scheme address with
    | ok new =>
      have hdone : perform (.exchange position address) bank = _ := exchange_of_ok hold hnew
      simp [step, hdone]
    | error refusal =>
      have hfail : perform (.exchange position address) bank = _ := exchange_of_error hold hnew
      simp [step, hfail, hlength]

/-- A bank whose slots all keep their addresses in its way does with exchanges and swaps what it is
meant to do. -/
theorem Uniform.serves (huniform : bank.Uniform) : bank.Serves where
  exchange position old address hold hroom := by
    obtain ⟨new, hnew⟩ : ∃ new, Slot.ofAddress bank.scheme address = .ok new := by
      cases hnew : Slot.ofAddress bank.scheme address with
      | ok new => exact ⟨new, rfl⟩
      | error cause =>
        obtain ⟨hpacked, hlarge, -⟩ := Slot.ofAddress_eq_error_iff.mp hnew
        exact absurd (hroom hpacked) (Nat.not_lt.mpr hlarge)
    have hscheme := huniform old (List.mem_of_getElem? hold)
    have hdone : perform (.exchange position address) bank = _ :=
      exchange_of_ok hold (hscheme.symm ▸ hnew)
    refine ⟨new, hnew, Slot.address_of_ofAddress hnew, ?_⟩
    simp only [step, hdone]
    exact ⟨trivial, trivial⟩
  swap first second a b hne ha hb := by
    have hdone : perform (.swap first second) bank = _ := swap_of_ne ha hb hne
    simp only [step, hdone]
    exact ⟨trivial, trivial⟩
  panics_iff _ _ _ := exchange_panics_iff huniform
  unchanged _ _ := step_of_error

/-- Requests keep all slots in the way of the bank. -/
theorem run_uniform (huniform : bank.Uniform) (requests : List (Option Request)) :
    (bank.run requests).2.scheme = bank.scheme ∧ (bank.run requests).2.Uniform := by
  refine run_invariant (fun _ after => after.scheme = bank.scheme ∧ after.Uniform) ?_ []
    ⟨rfl, huniform⟩
  rintro done before request answer after ⟨hscheme, hbefore⟩ heffect
  exact ⟨heffect.scheme_eq.trans hscheme, heffect.uniform hbefore⟩

/-- The contract of storage. Exactly the addresses below the reserved pattern are packed, and a
packed slot holds what it was made from, is no mark of a deleted bucket and is null only for null; a
raw slot holds every address and is the mark just for the largest one; slots of one scheme are equal
exactly if their addresses are and exactly if they are hashed alike. Whatever has been asked of a
bank, it goes on to exchange and swap what it is told to, unless it fails and changes no slot; the
addresses in its slots with those handed back are the earlier ones with those brought, every content
can be followed back to where it comes from, and a packed slot holds a mark exactly if it comes from
one. -/
theorem storage_contract (huniform : bank.Uniform) (requests : List (Option Request)) :
    (∀ address : Address, ((∃ slot, Slot.ofAddress .packed address = .ok slot) ↔
        address.toNat < 0xffffffffffff) ∧
      ((SixBytes.ofAddress? address).isSome = true ↔ address.toNat < 0xffffffffffff)) ∧
    (∀ (address : Address) (slot : Slot), Slot.ofAddress .packed address = .ok slot →
      slot.address = address ∧ slot.isDeleted = false ∧
        (slot = Slot.null .packed ↔ address = Address.null)) ∧
    (∀ address : Address, ∃ slot, Slot.ofAddress .raw address = .ok slot ∧ slot.address = address ∧
      (slot.isDeleted = true ↔ address.toNat = 0xffffffffffffffff)) ∧
    (∀ a b : Slot, a.scheme = b.scheme →
      (a = b ↔ a.address = b.address) ∧ (a = b ↔ a.hashBytes = b.hashBytes)) ∧
    (bank.run requests).2.held + bank.returned requests = bank.held + bank.supplied requests ∧
    ((bank.run requests).2.scheme = bank.scheme ∧ (bank.run requests).2.Serves) ∧
    List.Forall₂ (fun origin slot => bank.Explains slot origin) (bank.origins requests)
      (bank.run requests).2.slots ∧
    (bank.scheme = .packed → ∀ (position : Nat) (slot : Slot),
      (bank.run requests).2.slots[position]? = some slot →
      (slot.isDeleted = true ↔ ∃ origin, (bank.origins requests)[position]? = some origin ∧
        bank.ComesFromMark origin)) := by
  obtain ⟨hscheme, hfinal⟩ := run_uniform huniform requests
  have hexplains := run_explains huniform requests
  refine ⟨fun address => ⟨Slot.exists_ofAddress_packed_iff, SixBytes.isSome_ofAddress?_iff⟩,
    fun _ _ h => ⟨Slot.address_of_ofAddress h, Slot.isDeleted_of_ofAddress_packed h,
      Slot.eq_null_iff_of_ofAddress h⟩,
    fun address => ⟨.raw address, rfl, rfl, Slot.isDeleted_raw_iff⟩,
    fun a b h => ⟨(Slot.address_inj h).symm, (Slot.hashBytes_inj h).symm⟩,
    held_add_returned bank requests, ⟨hscheme, hfinal.serves⟩, hexplains,
    fun hpacked position slot hslot => ?_⟩
  obtain ⟨origin, horigin, hslotExplained⟩ := exists_of_forall₂ hexplains hslot
  rw [isDeleted_iff_comesFromMark hpacked hslotExplained]
  refine ⟨fun h => ⟨origin, horigin, h⟩, ?_⟩
  rintro ⟨other, hother, h⟩
  cases hother.symm.trans horigin
  exact h

/-- A packed bank with a null slot, a mark of a deleted bucket and an address. -/
def storageExample : Bank where
  scheme := .packed
  slots := [Slot.null .packed, Slot.deleted .packed, .packed (SixBytes.truncate 0x100000000)]

/-- Requests that move the mark, write over the slot that it has left, and give an address that has
no room. -/
def storageRequests : List (Option Request) :=
  [some (.swap 0 1), some (.exchange 1 0x100000400), some (.exchange 2 0xffffffffffff)]

/-- After these requests the first slot of that bank holds the mark, which it has from the second,
and the null that was written over has been handed back. The last slot still holds its address after
an exchange that panics, and the first two can be swapped again. -/
theorem storage_contract_storageExample :
    storageExample.Uniform ∧
      (storageExample.run storageRequests).2.held + storageExample.returned storageRequests =
        storageExample.held + storageExample.supplied storageRequests ∧
      storageExample.returned storageRequests = {Address.null} ∧
      ∃ slot, (storageExample.run storageRequests).2.slots[0]? = some slot ∧
        slot.isDeleted = true ∧
        (∃ origin, (storageExample.origins storageRequests)[0]? = some origin ∧
          storageExample.ComesFromMark origin) ∧
        ((storageExample.run storageRequests).2.step
          (some (.exchange 2 0xffffffffffff))).1.result =
            .error (.panicked (.doesNotFit 0xffffffffffff)) ∧
        ((storageExample.run storageRequests).2.step
          (some (.exchange 2 0xffffffffffff))).2 = (storageExample.run storageRequests).2 ∧
        ((storageExample.run storageRequests).2.step (some (.swap 0 1))).2.slots[1]? =
          some slot := by
  have huniform : storageExample.Uniform := by
    unfold Uniform
    decide
  have hslot : (storageExample.run storageRequests).2.slots[0]? = some (Slot.deleted .packed) := rfl
  obtain ⟨-, -, -, -, hheld, ⟨-, hserves⟩, -, hmark⟩ := storage_contract huniform storageRequests
  have hdeleted := Slot.isDeleted_deleted .packed
  have hpanics := (hserves.panics_iff 2 0xffffffffffff _).mpr ⟨by decide, rfl, by decide, rfl⟩
  have hswap := (hserves.swap 0 1 _ _ (by decide) hslot rfl).2
  exact ⟨huniform, hheld, rfl, _, hslot, hdeleted, (hmark rfl 0 _ hslot).mp hdeleted, hpanics,
    hserves.unchanged _ _ hpanics, hswap ▸ rfl⟩

end CountedHandles.Bank
