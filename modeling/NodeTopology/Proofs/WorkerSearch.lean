import NodeTopology.Resolver
import NodeTopology.Proofs.RunTrace
/-!
Which machine the search for a worker ends with.  The source of instances is asked once, for all of
them if the worker's name is an address and otherwise for those of its name.  Main statement: the
first on the list that is the worker's machine decides the search, whatever stands after it; and
without such a machine, or without a region for it, the search fails with what it looked for.
-/

namespace NodeTopology

theorem isAddress_empty : isAddress "" = false := by decide

/-- Whether an instance is the machine behind a worker: an address literal names it by its address,
any other name by its name. -/
def Instance.answersTo (name : String) (machine : Instance) : Bool :=
  if isAddress name then machine.address == name else machine.name == name

/-- An instance is the machine of a worker: the worker's name is the address of its network
interface, or else, if that is no address, its own name. -/
def Instance.IsMachineOf (worker : String) (machine : Instance) : Prop :=
  if isAddress worker then
    ∃ interface, machine.interface = some interface ∧ interface.primaryAddress = worker
  else machine.name = worker

/-- An address is that of no instance without a network interface, although such an instance shows
an empty one. -/
theorem Instance.answersTo_iff {worker : String} {machine : Instance} :
    machine.answersTo worker = true ↔ machine.IsMachineOf worker := by
  by_cases haddress : isAddress worker = true
  · have hfull : worker ≠ "" := by
      intro hempty
      simp [hempty, isAddress_empty] at haddress
    cases hinterface : machine.interface with
    | none => simp [answersTo, IsMachineOf, address, haddress, hinterface, hfull.symm]
    | some interface => simp [answersTo, IsMachineOf, address, haddress, hinterface]
  · simp [answersTo, IsMachineOf, haddress]

theorem Instance.not_isMachineOf_of_no_address {worker : String} {machine : Instance}
    (haddress : isAddress worker = true) (hnone : machine.address = "") :
    ¬machine.IsMachineOf worker := by
  rw [← answersTo_iff]
  intro hanswers
  simp only [answersTo, haddress, ↓reduceIte, hnone, beq_iff_eq] at hanswers
  simp [← hanswers, isAddress_empty] at haddress

namespace Resolver

/-- The first machine of a worker on a list: it is the worker's, and none before it is. -/
def IsFirst (worker : String) (machines : List Instance) (machine : Instance) : Prop :=
  machine.IsMachineOf worker ∧ ∃ before after, machines = before ++ machine :: after ∧
    ∀ other ∈ before, ¬other.IsMachineOf worker

/-- How the search for a worker ends on a list of instances. -/
inductive Decides (worker : String) (machines : List Instance) : Except Fault Placement → Prop
  /-- None of them is the worker's machine. -/
  | nobody (hnone : ∀ machine ∈ machines, ¬machine.IsMachineOf worker) :
      Decides worker machines (.error (.lookup (.workerNotFound (some worker))))
  /-- The first that is its machine is in no zone. -/
  | unzoned {machine : Instance} (hfirst : IsFirst worker machines machine)
      (hzone : machine.zone = none) :
      Decides worker machines (.error (.lookup (.invalidZone (some ""))))
  /-- The first that is its machine is in a zone whose name tells no region. -/
  | misnamed {machine : Instance} {zone : Zone} (hfirst : IsFirst worker machines machine)
      (hzone : machine.zone = some zone) (hregion : Region.ofZone? zone.name = none) :
      Decides worker machines (.error (.lookup (.invalidZone (some zone.name))))
  /-- The first that is its machine is in a zone of a region. -/
  | placed {machine : Instance} {zone : Zone} {region : String}
      (hfirst : IsFirst worker machines machine) (hzone : machine.zone = some zone)
      (hregion : Region.ofZone? zone.name = some region) :
      Decides worker machines (.ok ⟨machine.id, region, zone.name⟩)

section Lists

variable {worker : String} {machines : List Instance}

theorem find?_answersTo_eq_some_iff {machine : Instance} :
    machines.find? (·.answersTo worker) = some machine ↔ IsFirst worker machines machine := by
  simp [List.find?_eq_some_iff_append, IsFirst, ← Instance.answersTo_iff]

/-- The end that the search for a worker comes to on a list. -/
def chosen (worker : String) (machines : List Instance) : Except Fault Placement :=
  (machines.find? (·.answersTo worker)).elim (.error (.lookup (.workerNotFound (some worker))))
    fun machine => (placement machine).mapError .lookup

theorem chosen_of_isFirst {machine : Instance} (hfirst : IsFirst worker machines machine) :
    chosen worker machines = (placement machine).mapError .lookup := by
  rw [chosen, find?_answersTo_eq_some_iff.mpr hfirst]
  rfl

theorem decides_of_isFirst {machine : Instance} (hfirst : IsFirst worker machines machine) :
    Decides worker machines ((placement machine).mapError .lookup) := by
  cases hzone : machine.zone with
  | none =>
      have hregion : Region.ofZone? "" = none := by decide
      simpa [placement, Instance.zoneName, hzone, hregion] using .unzoned hfirst hzone
  | some zone =>
      cases hregion : Region.ofZone? zone.name with
      | none =>
          simpa [placement, Instance.zoneName, hzone, hregion] using .misnamed hfirst hzone hregion
      | some region =>
          simpa [placement, Instance.zoneName, hzone, hregion] using .placed hfirst hzone hregion

theorem decides_chosen (worker : String) (machines : List Instance) :
    Decides worker machines (chosen worker machines) := by
  cases hfind : machines.find? (·.answersTo worker) with
  | none =>
      rw [chosen, hfind]
      apply Decides.nobody
      simpa [← Instance.answersTo_iff] using List.find?_eq_none.mp hfind
  | some machine =>
      have hfirst := find?_answersTo_eq_some_iff.mp hfind
      rw [chosen_of_isFirst hfirst]
      exact decides_of_isFirst hfirst

theorem Decides.eq_chosen {ending : Except Fault Placement}
    (hdecides : Decides worker machines ending) : ending = chosen worker machines := by
  cases hdecides with
  | nobody hnone =>
      have hfind : machines.find? (·.answersTo worker) = none := by
        simpa [← Instance.answersTo_iff] using hnone
      simp [chosen, hfind]
  | @unzoned machine hfirst hzone =>
      have hregion : Region.ofZone? "" = none := by decide
      have hplacement : placement machine = .error (.invalidZone (some "")) := by
        simp [placement, Instance.zoneName, hzone, hregion]
      rw [chosen_of_isFirst hfirst, hplacement]
      rfl
  | @misnamed machine zone hfirst hzone hregion =>
      have hplacement : placement machine = .error (.invalidZone (some zone.name)) := by
        simp [placement, Instance.zoneName, hzone, hregion]
      rw [chosen_of_isFirst hfirst, hplacement]
      rfl
  | @placed machine zone region hfirst hzone hregion =>
      have hplacement : placement machine = .ok ⟨machine.id, region, zone.name⟩ := by
        simp [placement, Instance.zoneName, hzone, hregion]
      rw [chosen_of_isFirst hfirst, hplacement]
      rfl

end Lists

theorem result_ofList (machines : List Instance) (filter : Option String) (outside : Outside) :
    ((ofList machines).list filter outside).result =
      (orNone (machines.filter (passes filter))).mapError .lookup := by
  unfold ofList
  dsimp only
  rw [Run.bind_of_result_ok (a := ()) rfl]
  cases orNone (machines.filter (passes filter)) <;> rfl

section Search

variable {resolver : Resolver} {outside : Outside}

/-- What a search for a worker asks its source for: all instances if the worker's name is an
address, and otherwise those of its name. -/
def askedFor (worker : String) : Option String := if isAddress worker then none else some worker

/-- A search: the first instance listed that fits is reported. -/
def search (resolver : Resolver) (filter : Option String) (fits : Instance → Bool)
    (report : Instance → Run Outside Placement) (fault : Fault) : Run Outside Placement := do
  let instances ← resolver.list filter
  match instances.find? fits with
  | some machine => report machine
  | none => throw fault

theorem byAddress_eq (resolver : Resolver) (worker : Option String) :
    resolver.byAddress worker = resolver.search none (fun machine => some machine.address == worker)
      (fun machine => do
        Run.log .info ("Successfully found instance " ++ machine.id)
        reportPlacement machine)
      (.lookup (.workerNotFound worker)) := rfl

theorem byName_eq (resolver : Resolver) (worker : Option String) :
    resolver.byName worker = resolver.search worker (fun machine => some machine.name == worker)
      reportPlacement (.lookup (.workerNotFound worker)) := rfl

theorem reportPlacement_tells (machine : Instance) :
    (reportPlacement machine).Tells ((placement machine).mapError .lookup) := by
  have hrest : (placement machine).mapError Fault.lookup =
      (placement machine).mapError .lookup >>= .ok := by
    cases placement machine <;> rfl
  rw [hrest]
  apply Run.Tells.bind (Run.Tells.ofExcept _ _)
  intro found
  exact Run.Tells.log_bind (Run.Tells.pure found)

/-- A search on a list that was got from its source ends with the report of the first instance that
fits; it asks for nothing more. -/
theorem search_apply_of_listed {filter : Option String} {machines : List Instance}
    (hlisted : (resolver.list filter outside).result = .ok machines) (fits : Instance → Bool)
    {report : Instance → Run Outside Placement} {ending : Instance → Except Fault Placement}
    (hreport : ∀ machine, (report machine).Tells (ending machine)) (fault : Fault) :
    ∃ lines : List LogLine, resolver.search filter fits report fault outside =
      ⟨(machines.find? fits).elim (.error fault) ending,
        (resolver.list filter outside).trace ++ lines.map .logged,
        (resolver.list filter outside).supply⟩ := by
  unfold search
  rw [Run.bind_of_result_ok hlisted]
  cases machines.find? fits with
  | none => exact ⟨[], rfl⟩
  | some machine =>
      obtain ⟨lines, hlines⟩ := hreport machine (resolver.list filter outside).supply
      refine ⟨lines, ?_⟩
      dsimp only
      rw [hlines]
      rfl

/-- Workers with an address for a name and all others are searched for in the same way but for the
lines in the log. -/
theorem placementOf_eq_search (resolver : Resolver) (worker : String) :
    ∃ (opening : String) (report : Instance → Run Outside Placement),
      (∀ machine, (report machine).Tells ((placement machine).mapError .lookup)) ∧
      resolver.placementOf (some worker) = (do
        Run.log .info opening
        resolver.search (askedFor worker) (·.answersTo worker) report
          (.lookup (.workerNotFound (some worker)))) := by
  by_cases haddress : isAddress worker = true
  · have hreport : ∀ machine, (do
        Run.log .info ("Successfully found instance " ++ machine.id)
        reportPlacement machine : Run Outside Placement).Tells
          ((placement machine).mapError .lookup) :=
      fun machine => Run.Tells.log_bind (reportPlacement_tells machine)
    have hasked : askedFor worker = none := if_pos haddress
    simp only [placementOf, Option.any_some, haddress, ↓reduceIte, byAddress_eq, hasked,
      Instance.answersTo, ← Option.some_beq_some (b := worker)]
    exact ⟨_, _, hreport, rfl⟩
  · have hasked : askedFor worker = some worker := if_neg haddress
    simp only [placementOf, Option.any_some, haddress, Bool.false_eq_true, ↓reduceIte, byName_eq,
      hasked, Instance.answersTo, ← Option.some_beq_some (b := worker)]
    exact ⟨_, _, reportPlacement_tells, rfl⟩

/-- What a search for a worker does besides asking its source once is to write lines. -/
theorem placementOf_apply (resolver : Resolver) (worker : String) (outside : Outside) :
    let listing := resolver.list (askedFor worker) outside
    ∃ (opening : LogLine) (lines : List LogLine), resolver.placementOf (some worker) outside =
      ⟨listing.result >>= chosen worker,
        .logged opening :: (listing.trace ++ lines.map .logged), listing.supply⟩ := by
  obtain ⟨opening, report, hreport, hsearch⟩ := resolver.placementOf_eq_search worker
  dsimp only
  rw [hsearch, Run.bind_apply_of_ok (Run.log_apply _ _ _)]
  cases hlisted : (resolver.list (askedFor worker) outside).result with
  | error fault =>
      refine ⟨⟨.info, opening⟩, [], ?_⟩
      rw [search, Run.bind_of_result_error hlisted]
      simp [Bind.bind, Except.bind]
  | ok machines =>
      obtain ⟨lines, hlines⟩ := search_apply_of_listed hlisted (·.answersTo worker) hreport
        (.lookup (.workerNotFound (some worker)))
      refine ⟨⟨.info, opening⟩, lines, ?_⟩
      rw [hlines]
      rfl

/-- How the search for a worker goes, whatever its source.  It asks the source once, without a
filter for an address and otherwise for the worker's name, and else writes nothing but lines.  If
the source fails the search fails like it.  If the source lists some instances, the search ends as
they decide, and in no other way: the first that is the worker's machine counts, with its own
identity, zone and region.  An address never finds an instance without one. -/
theorem first_machine_decides (resolver : Resolver) (worker : String) (outside : Outside) :
    let listing := resolver.list (if isAddress worker then none else some worker) outside
    let run := resolver.placementOf (some worker) outside
    (∃ (opening : LogLine) (lines : List LogLine),
      run.trace = .logged opening :: (listing.trace ++ lines.map .logged) ∧
        run.supply = listing.supply) ∧
    (∀ fault, listing.result = .error fault → run.result = .error fault) ∧
    (∀ machines, listing.result = .ok machines →
      ∀ ending, run.result = ending ↔ Decides worker machines ending) ∧
    (isAddress worker = true → ∀ machine : Instance,
      machine.interface = none ∨ machine.address = "" → ¬machine.IsMachineOf worker) := by
  obtain ⟨opening, lines, hrun⟩ := resolver.placementOf_apply worker outside
  rw [askedFor] at hrun
  dsimp only at hrun ⊢
  rw [hrun]
  refine ⟨⟨opening, lines, rfl, rfl⟩, ?_, ?_, ?_⟩
  · intro fault hfault
    rw [hfault]
    rfl
  · intro machines hlisted ending
    rw [hlisted]
    constructor
    · rintro rfl
      exact decides_chosen worker machines
    · intro hdecides
      exact hdecides.eq_chosen.symm
  · intro haddress machine hnone
    apply Instance.not_isMachineOf_of_no_address haddress
    rcases hnone with hinterface | hempty
    · simp [Instance.address, hinterface]
    · exact hempty

end Search

end Resolver

end NodeTopology
