/-!
Keys with values, in the order in which the keys first appeared.  Data files, configuration tables
and node labels are all of this kind.  Main statements: putting a value changes what is found under
its own key and nothing else, and laying entries over others leaves every key alone that they do
not hold.
-/

namespace NodeTopology

/-- Keys with values; what is put in later under a key takes the place of what was there. -/
abbrev Entries (α : Type) := List (String × α)

namespace Entries

variable {α : Type}

def get? (entries : Entries α) (key : String) : Option α := entries.lookup key

def has (entries : Entries α) (key : String) : Bool := (entries.get? key).isSome

/-- Put a value under a key: an old key keeps its place, a new one comes last. -/
def put : Entries α → String → α → Entries α
  | [], key, value => [(key, value)]
  | (k, v) :: rest, key, value =>
      if k = key then (key, value) :: rest else (k, v) :: put rest key value

/-- Lay entries over others, one after the other. -/
def overlay (base upper : Entries α) : Entries α :=
  upper.foldl (fun entries entry => entries.put entry.1 entry.2) base

@[simp] theorem get?_nil (key : String) : get? ([] : Entries α) key = none := rfl

theorem get?_cons (k : String) (v : α) (rest : Entries α) (key : String) :
    get? ((k, v) :: rest) key = if key = k then some v else get? rest key := by
  rw [get?, List.lookup_cons]
  by_cases hkey : key = k
  · simp [hkey]
  · have hapart : (key == k) = false := by simpa using hkey
    rw [hapart, if_neg hkey]
    rfl

/-- Putting a value changes what is under its own key and nothing else. -/
theorem get?_put (entries : Entries α) (key : String) (value : α) (other : String) :
    (entries.put key value).get? other
      = if other = key then some value else entries.get? other := by
  induction entries with
  | nil => exact get?_cons key value [] other
  | cons entry rest ih =>
      rcases entry with ⟨k, v⟩
      by_cases hhere : k = key
      · subst hhere
        simp only [put, if_true, get?_cons]
        by_cases hother : other = k <;> simp [hother]
      · simp only [put, hhere, if_false, get?_cons, ih]
        by_cases hother : other = k
        · subst hother
          simp [hhere]
        · simp [hother]

@[simp] theorem overlay_nil (base : Entries α) : base.overlay [] = base := rfl

@[simp] theorem overlay_cons (base upper : Entries α) (entry : String × α) :
    base.overlay (entry :: upper) = (base.put entry.1 entry.2).overlay upper := rfl

/-- A key that is not laid over keeps its value. -/
theorem get?_overlay_of_forall_ne {upper : Entries α} {key : String}
    (hapart : ∀ entry ∈ upper, key ≠ entry.1) (base : Entries α) :
    (base.overlay upper).get? key = base.get? key := by
  induction upper generalizing base with
  | nil => rfl
  | cons entry upper ih =>
      have hentry : key ≠ entry.1 := hapart entry List.mem_cons_self
      have hupper := ih fun e he => hapart e (List.mem_cons_of_mem _ he)
      rw [overlay_cons, hupper, get?_put, if_neg hentry]

end Entries

end NodeTopology
