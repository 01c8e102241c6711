import CountedHandles.Handle.Release

/-!
# Destroying referents

A referent that is destroyed drops its links and checks that no handle holds it any more, in the
order that its kind prescribes. It is gone afterwards even if one of its links panicked.
-/

namespace CountedHandles.Referent

open Operation

/-- What there is to report when a referent goes away. -/
def violation? (referent : Referent) : Option Violation :=
  if referent.count = 0 then none else some ⟨referent.count, referent.roster.listing⟩

/-- Ends the run if handles still hold a referent. -/
def checkLifetime (name : String) : Operation Unit := do
  match ((← get).referent? name).bind violation? with
  | none => pure ()
  | some violation => throw (.violation violation)

/-- Destroys a referent. -/
def destroy (config : Config) (referent : Referent) : Operation Unit :=
  let dropLinks := Handle.releaseAll config referent.links
  let check := checkLifetime referent.name
  ensuring
    (if config.kind.checksFirst then ensuring check dropLinks else ensuring dropLinks check)
    (modify fun store => store.removeReferent referent.name)

end CountedHandles.Referent
