namespace Chip8
variable {Error Source Result Kept : Type}

theorem of_bind_ok {first : Except Error Source} {next : Source → Except Error Result}
    {result : Result} (succeeded : (first >>= next) = .ok result) :
    ∃ source, first = .ok source ∧ next source = .ok result := by
  cases first with
  | error error => cases succeeded
  | ok source => exact ⟨source, rfl, succeeded⟩

theorem map_of_mapM {change : Source → Except Error Result} {kept : Result → Kept}
    {given : Source → Kept}
    (keeps : ∀ source result, change source = .ok result → kept result = given source)
    {sources : List Source} {results : List Result} (changed : sources.mapM change = .ok results) :
    results.map kept = sources.map given := by
  induction sources generalizing results with
  | nil =>
      cases changed
      rfl
  | cons source rest ih =>
      rw [List.mapM_cons] at changed
      obtain ⟨result, first, changed⟩ := of_bind_ok changed
      obtain ⟨more, others, changed⟩ := of_bind_ok changed
      cases changed
      rw [List.map_cons, List.map_cons, keeps source result first, ih others]

theorem exists_of_mapM {change : Source → Except Error Result} {sources : List Source}
    (succeeds : ∀ source ∈ sources, ∃ result, change source = .ok result) :
    ∃ results, sources.mapM change = .ok results := by
  induction sources with
  | nil => exact ⟨[], rfl⟩
  | cons source rest ih =>
      obtain ⟨result, first⟩ := succeeds source List.mem_cons_self
      obtain ⟨results, others⟩ := ih fun other member =>
        succeeds other (List.mem_cons_of_mem _ member)
      exact ⟨result :: results, by rw [List.mapM_cons, first, others]; rfl⟩

end Chip8
