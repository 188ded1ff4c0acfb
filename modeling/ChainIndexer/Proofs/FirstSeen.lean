import ChainIndexer.Text.Part

/-! Lists without repetitions. What comes more than once is listed where it comes first. -/
namespace ChainIndexer

variable {α : Type} {xs once : List α} {x y : α}

def ComesBefore (xs : List α) (x y : α) : Prop :=
  ∃ i : Nat, xs[i]? = some x ∧ ∀ j : Nat, xs[j]? = some y → i < j

/-- Every item of a list once, in the order in which the items first come. -/
structure FirstOrder (xs once : List α) : Prop where
  nodup : once.Nodup
  mem_iff : ∀ x, x ∈ once ↔ x ∈ xs
  ordered : once.Pairwise (ComesBefore xs)

theorem lt_length_of_getElem? {i : Nat} (found : xs[i]? = some x) : i < xs.length :=
  (List.getElem?_eq_some_iff.1 found).1

theorem ComesBefore.append (h : ComesBefore xs x y) (more : List α) :
    ComesBefore (xs ++ more) x y := by
  obtain ⟨i, first, before⟩ := h
  have inside := lt_length_of_getElem? first
  refine ⟨i, (List.getElem?_append_left inside).trans first, ?_⟩
  intro j later
  rcases Nat.lt_or_ge j xs.length with within | beyond
  · rw [List.getElem?_append_left within] at later
    exact before j later
  · exact Nat.lt_of_lt_of_le inside beyond

theorem comesBefore_concat (there : x ∈ xs) (new : y ∉ xs) : ComesBefore (xs ++ [y]) x y := by
  obtain ⟨i, first⟩ := List.mem_iff_getElem?.1 there
  have inside := lt_length_of_getElem? first
  refine ⟨i, (List.getElem?_append_left inside).trans first, ?_⟩
  intro j later
  rcases Nat.lt_or_ge j xs.length with within | beyond
  · rw [List.getElem?_append_left within] at later
    exact absurd (List.mem_of_getElem? later) new
  · exact Nat.lt_of_lt_of_le inside beyond

variable [DecidableEq α]

theorem FirstOrder.concat (h : FirstOrder xs once) (x : α) :
    FirstOrder (xs ++ [x]) (appendNew once x) := by
  unfold appendNew
  split
  · rename_i listed
    have old : x ∈ xs := (h.mem_iff x).1 listed
    refine ⟨h.nodup, fun y => ?_, h.ordered.imp fun before => before.append _⟩
    rw [h.mem_iff, List.mem_append, List.mem_singleton]
    exact ⟨.inl, fun there => there.elim id fun same => same ▸ old⟩
  · rename_i unlisted
    have new : x ∉ xs := fun there => unlisted ((h.mem_iff x).2 there)
    refine ⟨List.nodup_append.2 ⟨h.nodup, List.pairwise_singleton _ x, ?_⟩, fun y => ?_,
      List.pairwise_append.2 ⟨h.ordered.imp fun before => before.append _,
        List.pairwise_singleton _ x, ?_⟩⟩
    · intro y listed z only same
      rw [same, List.mem_singleton.1 only] at listed
      exact unlisted listed
    · rw [List.mem_append, h.mem_iff, List.mem_append]
    · intro y listed z only
      rw [List.mem_singleton.1 only]
      exact comesBefore_concat ((h.mem_iff y).1 listed) new

theorem FirstOrder.foldl (h : FirstOrder xs once) (more : List α) :
    FirstOrder (xs ++ more) (more.foldl appendNew once) := by
  induction more generalizing xs once with
  | nil => exact (List.append_nil xs).symm ▸ h
  | cons x more ih => exact List.append_cons xs x more ▸ ih (h.concat x)

theorem firstOrder_firstSeen (xs : List α) : FirstOrder xs (firstSeen xs) :=
  FirstOrder.foldl ⟨.nil, fun _ => Iff.rfl, .nil⟩ xs

end ChainIndexer
