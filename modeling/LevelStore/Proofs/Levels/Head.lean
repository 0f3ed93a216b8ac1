import LevelStore.Proofs.Levels.Lookup

/-! The highest level of a table. Among integer levels it is one that none exceeds, read back from
its own row; only a table without rows has none. -/

namespace LevelStore.LevelTable

def IsHead (t : LevelTable) : Option StoredLevel → Prop
  | none => t.rows = []
  | some head =>
    ⟨head.id, .integer head.level, head.hash⟩ ∈ t.rows ∧
      ∀ row ∈ t.rows, ∀ n, row.level = .integer n → n ≤ head.level

theorem highest?_cons_cons (b row : LevelRow) (rest : List LevelRow) :
    highest? (b :: row :: rest) =
      if row.level.compare b.level = .gt then highest? (row :: rest) else highest? (b :: rest) := by
  simp only [highest?, List.foldl_cons]
  split <;> rfl

theorem highest?_integers {b : LevelRow} {rows : List LevelRow}
    (integers : ∀ row ∈ b :: rows, ∃ n, row.level = .integer n) :
    ∃ top n, highest? (b :: rows) = some top ∧ top ∈ b :: rows ∧ top.level = .integer n ∧
      ∀ row ∈ b :: rows, ∀ m, row.level = .integer m → m ≤ n := by
  induction rows generalizing b with
  | nil =>
    obtain ⟨n, level⟩ := integers b List.mem_cons_self
    exact ⟨b, n, rfl, List.mem_cons_self, level, by simp [level]⟩
  | cons row rest ih =>
    simp only [List.forall_mem_cons] at integers ih ⊢
    obtain ⟨⟨n, own⟩, ⟨m, next⟩, others⟩ := integers
    rw [highest?_cons_cons]
    -- The one of the two that goes on is no lower than the other.
    split
    · rename_i above
      have higher : n < m := by simpa [own, next, Scalar.compare, Int.compare_eq_gt] using above
      obtain ⟨top, k, found, member, level, reached, bound⟩ := ih ⟨⟨m, next⟩, others⟩
      refine ⟨top, k, found, List.mem_cons_of_mem b member, level, fun l same => ?_, reached,
        bound⟩
      cases own.symm.trans same
      exact Int.le_of_lt (Int.lt_of_lt_of_le higher (reached m next))
    · rename_i below
      have higher : m ≤ n := by simpa [own, next, Scalar.compare, Int.compare_eq_gt] using below
      obtain ⟨top, k, found, member, level, reached, bound⟩ := ih ⟨⟨n, own⟩, others⟩
      have member : top ∈ b :: row :: rest :=
        ((List.sublist_cons_self row rest).cons_cons b).subset member
      refine ⟨top, k, found, member, level, reached, fun l same => ?_, bound⟩
      cases next.symm.trans same
      exact Int.le_trans higher (reached n own)

theorem head_answer {t : LevelTable} (integers : t.IntegerLevels) :
    ∃ head, LevelRow.answer t.head? = .ok head ∧ t.IsHead head := by
  unfold head? IsHead
  unfold IntegerLevels at integers
  cases rows : t.rows with
  | nil => exact ⟨none, rfl, rfl⟩
  | cons b rest =>
    rw [rows] at integers
    obtain ⟨⟨id, _, hash⟩, n, found, member, rfl, bound⟩ := highest?_integers integers
    exact ⟨some ⟨id, n, hash⟩, by rw [found, LevelRow.answer, LevelRow.stored_integer],
      member, bound⟩

end LevelStore.LevelTable
