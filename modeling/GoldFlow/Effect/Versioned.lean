import Mathlib.Init

/-! # Versioned values -/

namespace GoldFlow.Effect.Versioned

variable {V W : Type}

/-- What was read of a value: it is not newer, and the value itself if it has the same version. -/
structure Copy (version : V → Nat) (current copy : V) : Prop where
  not_newer : version copy ≤ version current
  same : version copy = version current → copy = current

namespace Copy

variable {version : V → Nat} {current copy after : V}

theorem refl (current : V) : Copy version current current := ⟨Nat.le_refl _, fun _ => rfl⟩

theorem written (kept : Copy version current copy) (next : version after = version current + 1) :
    Copy version after copy := by
  have older : version copy < version after := by
    have bound := kept.not_newer
    omega
  exact ⟨Nat.le_of_lt older, fun same => absurd same (Nat.ne_of_lt older)⟩

end Copy

/-- The writes that succeeded, from the first value to the last. -/
inductive Log (write : V → W → V → Prop) : V → List W → V → Prop
  | nil {value} : Log write value [] value
  | snoc {start middle final entries entry} :
      Log write start entries middle → write middle entry final →
      Log write start (entries ++ [entry]) final

namespace Log

variable {write : V → W → V → Prop} {start final : V} {entries : List W}

theorem mono {weaker : V → W → V → Prop} (log : Log write start entries final)
    (implies : ∀ before entry after, write before entry after → weaker before entry after) :
    Log weaker start entries final := by
  induction log with
  | nil => exact .nil
  | snoc _ step ih => exact ih.snoc (implies _ _ _ step)

theorem split {earlier later : List W} (log : Log write start entries final) (whole : entries = earlier ++ later) :
    ∃ middle, Log write start earlier middle ∧ Log write middle later final := by
  induction log generalizing later with
  | nil =>
    obtain ⟨rfl, rfl⟩ := List.append_eq_nil_iff.mp whole.symm
    exact ⟨_, .nil, .nil⟩
  | @snoc middle final entries entry log step ih =>
    rcases List.eq_nil_or_concat later with rfl | ⟨rest, last, rfl⟩
    · rw [List.append_nil] at whole
      subst whole
      exact ⟨final, log.snoc step, .nil⟩
    · rw [List.concat_eq_append, ← List.append_assoc] at whole
      obtain ⟨shorter, lastEq⟩ := List.append_inj' whole rfl
      obtain rfl : entry = last := by simpa using lastEq
      obtain ⟨value, first, second⟩ := ih shorter
      refine ⟨value, first, ?_⟩
      rw [List.concat_eq_append]
      exact second.snoc step

theorem uncons {entry : W} {later : List W} (log : Log write start entries final)
    (whole : entries = entry :: later) : ∃ middle, write start entry middle ∧ Log write middle later final := by
  have parts : ∃ middle, Log write start [entry] middle ∧ Log write middle later final := log.split whole
  obtain ⟨middle, first, rest⟩ := parts
  generalize single : [entry] = entries at first
  cases first with
  | nil => cases single
  | @snoc before _ entries last log step =>
    cases log with
    | nil =>
      obtain rfl : entry = last := by simpa using single
      exact ⟨middle, step, rest⟩
    | snoc =>
      have shorter := congrArg List.length single
      simp at shorter

theorem keeps {flag : V → Prop} {releases : W → Prop}
    (kept : ∀ before entry after, write before entry after → flag before → ¬ releases entry → flag after)
    (log : Log write start entries final) (flagged : flag start)
    (unreleased : ∀ entry ∈ entries, ¬ releases entry) : flag final := by
  induction log with
  | nil => exact flagged
  | @snoc middle final entries entry log step ih =>
    have before := ih fun other member => unreleased other (List.mem_append_left _ member)
    exact kept _ _ _ step before (unreleased entry (by simp))

theorem keeps_until {earlier between rest : List W} {first last : W} (log : Log write start entries final)
    (flag : V → Prop) (releases : W → Prop)
    (kept : ∀ before entry after, write before entry after → flag before → ¬ releases entry → flag after)
    (whole : entries = earlier ++ first :: (between ++ last :: rest))
    (flagged : ∀ before after, write before first after → flag after)
    (unreleased : ∀ entry ∈ between ++ [last], ¬ releases entry) :
    ∃ before after, write before last after ∧ flag after := by
  obtain ⟨_, _, fromFirst⟩ := log.split whole
  obtain ⟨_, firstWrite, afterFirst⟩ := fromFirst.uncons rfl
  obtain ⟨before, untilLast, fromLast⟩ := afterFirst.split rfl
  obtain ⟨after, lastWrite, _⟩ := fromLast.uncons rfl
  have stillFlagged : flag before := by
    apply untilLast.keeps kept (flagged _ _ firstWrite)
    exact fun entry member => unreleased entry (List.mem_append_left _ member)
  exact ⟨before, after, lastWrite, kept _ _ _ lastWrite stillFlagged (unreleased last (by simp))⟩

end Log

end GoldFlow.Effect.Versioned
