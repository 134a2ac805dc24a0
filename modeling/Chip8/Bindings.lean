namespace Chip8

abbrev Bindings (Key Item : Type) := List (Key × Item)

namespace Bindings
variable {Key Item : Type} [DecidableEq Key]

def bind (key : Key) (item : Item) : Bindings Key Item → Bindings Key Item
  | [] => [(key, item)]
  | (other, old) :: rest =>
      if other = key then (key, item) :: rest else (other, old) :: bind key item rest

def ofPairs (pairs : List (Key × Item)) : Bindings Key Item :=
  pairs.foldl (fun bindings (key, item) => bind key item bindings) []

theorem lookup_bind (key other : Key) (item : Item) (bindings : Bindings Key Item) :
    (bind key item bindings).lookup other =
      if other = key then some item else bindings.lookup other := by
  induction bindings with
  | nil => by_cases same : other = key <;> simp [bind, List.lookup_cons, same, beq_false_of_ne]
  | cons pair rest ih =>
      obtain ⟨first, old⟩ := pair
      by_cases found : first = key
      · subst found
        by_cases same : other = first <;> simp [bind, List.lookup_cons, same, beq_false_of_ne]
      · by_cases same : other = first
        · subst same
          simp [bind, found]
        · simp [bind, List.lookup_cons, found, same, ih, beq_false_of_ne]

end Bindings
end Chip8
