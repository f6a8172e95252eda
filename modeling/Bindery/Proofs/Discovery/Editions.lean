import Bindery.Discovery.Documents
import Bindery.Proofs.Discovery.GatheredRuns

/-!
# Editions of APIs

The document of an edition is fetched, read and compiled. It gives methods if it is available and without faults, stops
the run if it cannot be asked for or be compiled, and is left out otherwise.
-/
namespace Bindery

open Bindery.Data (Datum)
open Bindery.Discovery (Edition)
open Bindery.Network (Web)

/-- Are these the methods of an edition, its document being available and without faults? -/
def Offers (web : Web) (edition : Edition) (methods : List Method) : Prop :=
  ∃ value document compiled, Network.fetchJson web edition.address = .ok value ∧
    Schema.parseDocument value = .valid document ∧ compileDocument edition.metadata document = .ok compiled ∧
    compiled.value = methods

/-- Does an edition end a run? Either its document cannot even be asked for, or it cannot be compiled. -/
def StopsWith (web : Web) (edition : Edition) (cause : Interruption) : Prop :=
  Network.fetchJson web edition.address = .error (.interrupted cause) ∨
    ∃ value document failure, Network.fetchJson web edition.address = .ok value ∧
      Schema.parseDocument value = .valid document ∧ compileDocument edition.metadata document = .error failure ∧
      cause = .failure failure

section Editions

variable {web : Web} {edition : Edition}

/-- A document as the methods of a version. -/
theorem fetchMethods_ok {value : Datum} {document : Schema.ParsedDocument}
    {methods : Noted (List Method)} (fetched : Network.fetchJson web edition.address = .ok value)
    (parsed : Schema.parseDocument value = .valid document)
    (compiled : compileDocument edition.metadata document = .ok methods) :
    (edition.fetchMethods web).result = .ok (some methods.value) := by
  rw [Edition.fetchMethods, fetched]
  simp only [Network.available?, parsed]
  rw [compiled]
  rfl

/-- A document that cannot be compiled. -/
theorem fetchMethods_failure {value : Datum} {document : Schema.ParsedDocument}
    {failure : Failure} (fetched : Network.fetchJson web edition.address = .ok value)
    (parsed : Schema.parseDocument value = .valid document)
    (stopped : compileDocument edition.metadata document = .error failure) :
    (edition.fetchMethods web).result = .error (.failure failure) := by
  rw [Edition.fetchMethods, fetched]
  simp only [Network.available?, parsed]
  rw [stopped]
  rfl

theorem fetchMethods_cases (web : Web) (edition : Edition) :
    (∃ cause, (edition.fetchMethods web).result = .error cause ∧ StopsWith web edition cause) ∨
      ((edition.fetchMethods web).result = .ok none ∧ ∀ methods, ¬ Offers web edition methods) ∨
      ∃ methods, (edition.fetchMethods web).result = .ok (some methods) ∧ Offers web edition methods := by
  -- The cases are those of the fetch, of the reading and of the compilation, in this order.
  cases fetched : Network.fetchJson web edition.address with
  | error fault =>
    cases fault with
    | unavailable fault =>
      refine .inr (.inl ⟨by rw [Edition.fetchMethods, fetched]; rfl, ?_⟩)
      rintro methods ⟨value, -, -, there, -⟩
      cases fetched.symm.trans there
    | interrupted cause => exact .inl ⟨cause, by rw [Edition.fetchMethods, fetched]; rfl, .inl fetched⟩
  | ok value =>
    cases parsed : Schema.parseDocument value with
    | invalid faults =>
      -- A document with faults is noted and left out, like one that is not there.
      refine .inr (.inl ⟨?_, ?_⟩)
      · rw [Edition.fetchMethods, fetched]
        simp only [Network.available?, parsed]
        rfl
      · rintro methods ⟨value', document, -, there, valid, -⟩
        obtain rfl := Except.ok.inj (fetched.symm.trans there)
        cases parsed.symm.trans valid
    | valid document =>
      cases compiled : compileDocument edition.metadata document with
      | error failure =>
        exact .inl ⟨.failure failure, fetchMethods_failure fetched parsed compiled,
          .inr ⟨value, document, failure, fetched, parsed, compiled, rfl⟩⟩
      | ok methods =>
        exact .inr (.inr ⟨methods.value, fetchMethods_ok fetched parsed compiled,
          value, document, methods, fetched, parsed, compiled, rfl⟩)

theorem fetchMethods_eq_some_iff {methods : List Method} :
    (edition.fetchMethods web).result = .ok (some methods) ↔ Offers web edition methods := by
  constructor
  · intro done
    obtain ⟨cause, failed, -⟩ | ⟨left, -⟩ | ⟨found, here, offers⟩ := fetchMethods_cases web edition
    · cases failed.symm.trans done
    · cases left.symm.trans done
    · obtain rfl := Option.some.inj (Except.ok.inj (here.symm.trans done))
      exact offers
  · rintro ⟨value, document, compiled, fetched, parsed, made, rfl⟩
    exact fetchMethods_ok fetched parsed made

theorem fetchMethods_eq_error {cause : Interruption} (failed : (edition.fetchMethods web).result = .error cause) :
    StopsWith web edition cause := by
  obtain ⟨other, here, stops⟩ | ⟨left, -⟩ | ⟨found, here, -⟩ := fetchMethods_cases web edition
  · obtain rfl := Except.error.inj (here.symm.trans failed)
    exact stops
  · cases left.symm.trans failed
  · cases here.symm.trans failed

theorem Offers.unique {methods others : List Method} (first : Offers web edition methods)
    (second : Offers web edition others) : methods = others :=
  Option.some.inj (Except.ok.inj ((fetchMethods_eq_some_iff.mpr first).symm.trans (fetchMethods_eq_some_iff.mpr second)))

end Editions

end Bindery
