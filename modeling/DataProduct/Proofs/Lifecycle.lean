import DataProduct.Lifecycle

/-!
# Runs of the lifecycle

A run applies actions one after another from a start status. An action the status refuses is
reported, naming the status and the action, and leaves the status as it was; a taken action
moves the product on. What one action can do is said once, by the inversion lemmas
`Status.apply_eq_ok_published` and `Status.apply_eq_ok_approved` and by the refusals of a
published product (`Status.apply_published`). Everything about runs follows from them and from
two facts about the steps of a run:

* `Status.linked_taken`: the taken steps of a run each start where the one before left off;
* `Status.run_eq_append_cons`: the steps after any step are the run of the remaining actions
  from where that step left off.

Main statement: `runs_publish_only_after_approval`, publishing is reached only through approval,
and at most once.
-/

namespace DataProduct

/-- An action applied in a status. -/
structure Step where
  before : Status
  action : Action
  deriving DecidableEq, Repr

namespace Step

/-- What came of a step: the next status, or the refusal. -/
def outcome (t : Step) : Except LifecycleError Status := t.before.apply t.action

/-- The status after a step; a refused action leaves it. -/
def after (t : Step) : Status :=
  match t.outcome with
  | .ok s => s
  | .error _ => t.before

/-- Whether the action was taken. -/
def taken (t : Step) : Bool := t.outcome.isOk

/-- The step moves into `s` from another status. -/
def Enters (t : Step) (s : Status) : Prop := t.before ≠ s ∧ t.after = s

end Step

/-- The steps of a run of actions from a status. -/
def Status.run : Status → List Action → List Step
  | _, [] => []
  | s, a :: as => ⟨s, a⟩ :: (Step.after ⟨s, a⟩).run as

/-! ## One action -/

namespace Status

theorem apply_eq_ok_published (s : Status) (a : Action) :
    s.apply a = .ok .published ↔ s = .approved ∧ a = .publish := by
  cases s <;> cases a <;> simp [apply]

theorem apply_eq_ok_approved (s : Status) (a : Action) :
    s.apply a = .ok .approved ↔ s = .pending ∧ a = .approve := by
  cases s <;> cases a <;> simp [apply]

theorem apply_publish_eq_ok (s s' : Status) :
    s.apply .publish = .ok s' ↔ s = .approved ∧ s' = .published := by
  cases s <;> simp [apply, eq_comm]

/-- A published product refuses every action. -/
theorem apply_published (a : Action) :
    Status.published.apply a = .error (.invalidTransition .published a) := by
  cases a <;> rfl

/-- A refusal names the status and the action. -/
theorem apply_eq_error {s : Status} {a : Action} {e : LifecycleError} (h : s.apply a = .error e) :
    e = .invalidTransition s a := by
  cases s <;> cases a <;> simp_all [apply]

end Status

namespace Step

variable {t : Step}

theorem outcome_of_taken (h : t.taken = true) : t.outcome = .ok t.after := by
  unfold taken at h
  unfold after
  cases ho : t.outcome <;> simp_all [Except.isOk, Except.toBool]

theorem after_of_refused (h : t.taken = false) : t.after = t.before := by
  unfold taken at h
  unfold after
  cases ho : t.outcome <;> simp_all [Except.isOk, Except.toBool]

theorem outcome_of_enters {s : Status} (h : t.Enters s) : t.outcome = .ok s := by
  obtain ⟨hb, ha⟩ := h
  cases ht : t.taken with
  | false => exact absurd (ha ▸ after_of_refused ht).symm hb
  | true => rw [outcome_of_taken ht, ha]

theorem enters_published (h : t.Enters .published) : t.before = .approved ∧ t.action = .publish :=
  (Status.apply_eq_ok_published _ _).1 (outcome_of_enters h)

theorem enters_approved (h : t.Enters .approved) : t.before = .pending ∧ t.action = .approve :=
  (Status.apply_eq_ok_approved _ _).1 (outcome_of_enters h)

/-- A taken publish starts in `approved` and ends in `published`. -/
theorem publish_of_taken (h : t.taken = true) (ha : t.action = .publish) :
    t.before = .approved ∧ t.after = .published := by
  have ho := outcome_of_taken h
  rw [outcome, ha] at ho
  exact (Status.apply_publish_eq_ok _ _).1 ho

/-- A step taken into `approved` is an approval. -/
theorem approve_of_taken (h : t.taken = true) (ha : t.after = .approved) : t.action = .approve := by
  have ho := outcome_of_taken h
  rw [outcome, ha] at ho
  exact ((Status.apply_eq_ok_approved _ _).1 ho).2

/-- A step from `published` is refused and stays there. -/
theorem from_published (h : t.before = .published) :
    t.taken = false ∧ t.after = .published := by
  have ho : t.outcome = .error (.invalidTransition .published t.action) := by
    rw [outcome, h, Status.apply_published]
  simp [taken, after, ho, h, Except.isOk, Except.toBool]

end Step

/-! ## Runs -/

namespace Status

@[simp] theorem run_nil (s : Status) : s.run [] = [] := rfl

theorem run_cons (s : Status) (a : Action) (as : List Action) :
    s.run (a :: as) = ⟨s, a⟩ :: (Step.after ⟨s, a⟩).run as := rfl

/-- Steps that each start where the one before left off, the first at `s`. -/
def Linked : Status → List Step → Prop
  | _, [] => True
  | s, t :: ts => t.before = s ∧ Linked t.after ts

/-- The taken steps of a run are linked: a refused step in between leaves the status. -/
theorem linked_taken (s : Status) (as : List Action) : Linked s ((s.run as).filter (·.taken)) := by
  induction as generalizing s with
  | nil => trivial
  | cons a as ih =>
    rw [run_cons, List.filter_cons]
    cases ht : Step.taken ⟨s, a⟩ with
    | false =>
      have hs : Step.after ⟨s, a⟩ = s := Step.after_of_refused ht
      simpa [hs] using ih s
    | true => exact ⟨rfl, ih _⟩

/-- In linked taken steps, a publish is the first step, from `approved`, or follows an
approval. -/
theorem publish_follows_approve {s : Status} (l₁ : List Step) {t : Step} {l₂ ts : List Step}
    (hl : Linked s ts) (ht : ∀ u ∈ ts, u.taken = true) (hs : ts = l₁ ++ t :: l₂)
    (ha : t.action = .publish) :
    (l₁ = [] ∧ s = .approved) ∨ ∃ u, l₁.getLast? = some u ∧ u.action = .approve := by
  induction l₁ generalizing s ts with
  | nil =>
    subst hs
    have hb := (Step.publish_of_taken (ht t (by simp)) ha).1
    exact .inl ⟨rfl, hl.1 ▸ hb⟩
  | cons u l₁ ih =>
    subst hs
    have hu : u.taken = true := ht u (by simp)
    rcases ih hl.2 (fun v hv => ht v (List.mem_cons_of_mem _ hv)) rfl with ⟨rfl, hp⟩ | ⟨v, hv, hva⟩
    · exact .inr ⟨u, rfl, Step.approve_of_taken hu hp⟩
    · have hne : l₁ ≠ [] := by rintro rfl; simp at hv
      refine .inr ⟨v, ?_, hva⟩
      rw [List.getLast?_cons, hv, Option.getD_some]

/-- The steps after any step of a run are the run of the actions left, from where it left off. -/
theorem run_eq_append_cons {s : Status} {as : List Action} {l₁ l₂ : List Step} {t : Step}
    (h : s.run as = l₁ ++ t :: l₂) : l₂ = t.after.run (as.drop (l₁.length + 1)) := by
  induction l₁ generalizing s as with
  | nil =>
    cases as with
    | nil => simp at h
    | cons a as =>
      rw [run_cons] at h
      obtain ⟨rfl, rfl⟩ := List.cons.inj h
      rfl
  | cons u l₁ ih =>
    cases as with
    | nil => simp at h
    | cons a as =>
      rw [run_cons, List.cons_append] at h
      obtain ⟨rfl, hrest⟩ := List.cons.inj h
      simpa using ih hrest

/-- From `published` every action is refused, and the status stays. -/
theorem run_published (as : List Action) :
    ∀ u ∈ Status.published.run as, u.taken = false ∧ u.before = .published ∧ u.after = .published := by
  induction as with
  | nil => simp
  | cons a as ih =>
    have h := Step.from_published (t := ⟨.published, a⟩) rfl
    rw [run_cons, h.2]
    intro u hu
    rcases List.mem_cons.1 hu with rfl | hu
    · exact ⟨h.1, rfl, h.2⟩
    · exact ih u hu

/-- At most one publish of a run is taken. -/
theorem publish_taken_at_most_once (s : Status) (as : List Action) :
    ((s.run as).filter fun t => t.taken && t.action == .publish).length ≤ 1 := by
  induction as generalizing s with
  | nil => simp
  | cons a as ih =>
    rw [run_cons, List.filter_cons]
    by_cases hp : (Step.taken ⟨s, a⟩ && (a == .publish)) = true
    · -- after a taken publish the product is published, and nothing more is taken
      simp only [Bool.and_eq_true, beq_iff_eq] at hp
      obtain ⟨ht, rfl⟩ := hp
      have hafter := (Step.publish_of_taken ht rfl).2
      have hnone : ((Status.published.run as).filter fun t => t.taken && t.action == .publish) = [] := by
        refine List.filter_eq_nil_iff.2 fun u hu => ?_
        simp [(run_published as u hu).1]
      simp [ht, hafter, hnone]
    · simpa [hp] using ih _

end Status

/-- Publishing is reached only through approval, and at most once. In every run: a step enters
`published` only as a publish in `approved`, and `approved` only as an approval in `pending`;
from `draft`, each taken publish directly follows a taken approval among the taken steps; once
the product is published every later action is refused and it stays published; and at most one
publish is taken. -/
theorem runs_publish_only_after_approval (s : Status) (as : List Action) :
    (∀ t ∈ s.run as, t.Enters .published → t.before = .approved ∧ t.action = .publish) ∧
    (∀ t ∈ s.run as, t.Enters .approved → t.before = .pending ∧ t.action = .approve) ∧
    (∀ l₁ t l₂, (Status.draft.run as).filter (·.taken) = l₁ ++ t :: l₂ → t.action = .publish →
      ∃ u, l₁.getLast? = some u ∧ u.action = .approve) ∧
    (∀ l₁ t l₂, s.run as = l₁ ++ t :: l₂ → t.after = .published →
      ∀ u ∈ l₂, u.taken = false ∧ u.before = .published ∧ u.after = .published) ∧
    ((s.run as).filter fun t => t.taken && t.action == .publish).length ≤ 1 := by
  refine ⟨fun t _ => Step.enters_published, fun t _ => Step.enters_approved, ?_, ?_,
    Status.publish_taken_at_most_once s as⟩
  · intro l₁ t l₂ hs ha
    have ht : ∀ u ∈ (Status.draft.run as).filter (·.taken), u.taken = true := fun u hu =>
      (List.mem_filter.1 hu).2
    rcases Status.publish_follows_approve l₁ (Status.linked_taken .draft as) ht hs ha with
      ⟨-, h⟩ | h
    · cases h
    · exact h
  · intro l₁ t l₂ hs hp u hu
    rw [Status.run_eq_append_cons hs, hp] at hu
    exact Status.run_published _ u hu

end DataProduct
