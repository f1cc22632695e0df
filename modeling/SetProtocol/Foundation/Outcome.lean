import Mathlib.Data.List.Forall2
import Mathlib.Logic.Relation
import Mathlib.Logic.Unique

/-!
# Computations that either return or revert

A call either returns a value or reverts with a reason string, and a revert undoes the whole
call.  Programs are written in the `Except String` monad; the lemmas below peel a successful
program apart into its successful steps, so that later proofs never unfold the monad.
-/

namespace SetProtocol

variable {α β σ : Type}

/-- The value of a call that succeeds, or the reason of its revert. -/
abbrev Outcome (α : Type) := Except String α

/-- Revert with `reason` unless `p` holds. -/
def require (p : Prop) [Decidable p] (reason : String) : Outcome Unit :=
  if p then .ok () else .error reason

namespace Outcome

/-- The returned value, or `default` after a revert. -/
def getD (x : Outcome α) (default : α) : α :=
  match x with
  | .ok a => a
  | .error _ => default

theorem eq_ok_getD {x : Outcome α} (default : α) (h : x.isOk = true) :
    x = .ok (x.getD default) := by
  cases x with
  | error reason => cases h
  | ok a => rfl

@[simp] theorem bind_eq_ok {x : Outcome α} {f : α → Outcome β} {b : β} :
    x >>= f = .ok b ↔ ∃ a, x = .ok a ∧ f a = .ok b := by
  cases x with
  | error reason => simp [bind, Except.bind]
  | ok a => simp [bind, Except.bind]

@[simp] theorem ok_bind {a : α} {f : α → Outcome β} : (.ok a : Outcome α) >>= f = f a := rfl

@[simp] theorem error_bind {reason : String} {f : α → Outcome β} :
    (.error reason : Outcome α) >>= f = .error reason := rfl

@[simp] theorem pure_eq_ok {a b : α} : (pure a : Outcome α) = .ok b ↔ a = b := by
  simp [pure, Except.pure]

@[simp] theorem throw_ne_ok {reason : String} {b : α} :
    (throw reason : Outcome α) = .ok b ↔ False := by
  simp [throw, throwThe, MonadExceptOf.throw]

@[simp] theorem map_eq_ok {x : Outcome α} {f : α → β} {b : β} :
    f <$> x = .ok b ↔ ∃ a, x = .ok a ∧ f a = b := by
  cases x with
  | error reason => simp [Functor.map, Except.map]
  | ok a => simp [Functor.map, Except.map]

@[simp] theorem require_eq_ok {p : Prop} [Decidable p] {reason : String} {u : Unit} :
    require p reason = .ok u ↔ p := by
  unfold require
  split <;> simp_all

/-- A loop of checks passes exactly when every check does. -/
@[simp] theorem forM_eq_ok {f : α → Outcome Unit} {as : List α} {u : Unit} :
    forM as f = .ok u ↔ ∀ a ∈ as, f a = .ok () := by
  induction as with
  | nil => simp
  | cons a as ih => simp [ih, Unique.exists_iff]

/-- What every step of a loop preserves holds after the loop. -/
theorem foldlM_invariant_of_mem {step : σ → α → Outcome σ} {P : σ → Prop} {as : List α}
    (hstep : ∀ s, ∀ a ∈ as, ∀ s', step s a = .ok s' → P s → P s') {s s' : σ}
    (h : as.foldlM step s = .ok s') (hs : P s) : P s' := by
  induction as generalizing s with
  | nil =>
    simp only [List.foldlM_nil, pure_eq_ok] at h
    exact h ▸ hs
  | cons a as ih =>
    simp only [List.foldlM_cons, bind_eq_ok] at h
    obtain ⟨t, ht, h⟩ := h
    apply ih (fun s a' ha' ↦ hstep s a' (List.mem_cons_of_mem _ ha')) h
    exact hstep s a List.mem_cons_self t ht hs

/-- A loop whose passes are those of another one, as far as they succeed. -/
theorem foldlM_mono {step step' : σ → α → Outcome σ} {as : List α}
    (hstep : ∀ s, ∀ a ∈ as, ∀ s', step s a = .ok s' → step' s a = .ok s') {s s' : σ}
    (h : as.foldlM step s = .ok s') : as.foldlM step' s = .ok s' := by
  induction as generalizing s with
  | nil => exact h
  | cons a as ih =>
    simp only [List.foldlM_cons, bind_eq_ok] at h ⊢
    obtain ⟨t, ht, h⟩ := h
    exact ⟨t, hstep s a (by simp) t ht, ih (fun s b hb ↦ hstep s b (by simp [hb])) h⟩

theorem foldlM_invariant {step : σ → α → Outcome σ} {P : σ → Prop}
    (hstep : ∀ s a s', step s a = .ok s' → P s → P s') {as : List α} {s s' : σ}
    (h : as.foldlM step s = .ok s') (hs : P s) : P s' :=
  foldlM_invariant_of_mem (fun s a _ ↦ hstep s a) h hs

/-- What the pass over one element establishes and every pass preserves holds after the loop.  The
passes may rely on an invariant `Q` of the whole loop. -/
theorem foldlM_establish {step : σ → α → Outcome σ} {P Q : σ → Prop} {as : List α} {a : α}
    (ha : a ∈ as) (hinv : ∀ s, ∀ b ∈ as, ∀ s', step s b = .ok s' → Q s → Q s')
    (hset : ∀ s s', step s a = .ok s' → Q s → P s')
    (hkeep : ∀ s, ∀ b ∈ as, ∀ s', step s b = .ok s' → Q s → P s → P s') {s s' : σ}
    (h : as.foldlM step s = .ok s') (hs : Q s) : P s' := by
  obtain ⟨before, after, rfl⟩ := List.append_of_mem ha
  simp only [List.foldlM_append, List.foldlM_cons, bind_eq_ok] at h
  obtain ⟨t, hbefore, u, hu, hafter⟩ := h
  have hleft : ∀ b ∈ before, b ∈ before ++ a :: after := fun b hb ↦ List.mem_append_left _ hb
  have hright : ∀ b ∈ after, b ∈ before ++ a :: after := fun b hb ↦
    List.mem_append_right before (List.mem_cons_of_mem a hb)
  have ht : Q t := foldlM_invariant_of_mem (fun v b hb ↦ hinv v b (hleft b hb)) hbefore hs
  apply (foldlM_invariant_of_mem (P := fun v ↦ Q v ∧ P v) ?_ hafter
    ⟨hinv t a ha u hu ht, hset t u hu ht⟩).2
  intro v b hb v' hstep ⟨hQ, hP⟩
  exact ⟨hinv v b (hright b hb) v' hstep hQ, hkeep v b (hright b hb) v' hstep hQ hP⟩

/-- A loop whose passes each succeed on what the passes before leave behind. -/
theorem foldlM_progress {step : σ → α → Outcome σ} {P : σ → List α → Prop}
    (hstep : ∀ s a as, P s (a :: as) → ∃ s', step s a = .ok s' ∧ P s' as) {as : List α} {s : σ}
    (hs : P s as) : ∃ s', as.foldlM step s = .ok s' ∧ P s' [] := by
  induction as generalizing s with
  | nil => exact ⟨s, rfl, hs⟩
  | cons a as ih =>
    obtain ⟨t, ht, hP⟩ := hstep s a as hs
    obtain ⟨s', hs', hP'⟩ := ih hP
    refine ⟨s', ?_, hP'⟩
    rw [List.foldlM_cons, ht]
    exact hs'

/-- A loop whose passes change nothing, as far as they succeed. -/
theorem foldlM_idle_iff {step : σ → α → Outcome σ} {R : α → Prop} {as : List α} {s s' : σ}
    (hstep : ∀ a ∈ as, ∀ t, step s a = .ok t ↔ R a ∧ t = s) :
    as.foldlM step s = .ok s' ↔ (∀ a ∈ as, R a) ∧ s' = s := by
  induction as with
  | nil => simp [@eq_comm _ s']
  | cons a as ih =>
    obtain ⟨hhead, htail⟩ := List.forall_mem_cons.mp hstep
    simp only [List.foldlM_cons, bind_eq_ok, hhead, List.forall_mem_cons]
    constructor
    · rintro ⟨t, ⟨ha, rfl⟩, h⟩
      obtain ⟨hrest, heq⟩ := (ih htail).mp h
      exact ⟨⟨ha, hrest⟩, heq⟩
    · rintro ⟨⟨ha, hrest⟩, heq⟩
      exact ⟨s, ⟨ha, rfl⟩, (ih htail).mpr ⟨hrest, heq⟩⟩

/-- A loop over distinct elements, each of whose passes needs what the passes over other elements leave
alone, is a loop that does not fail behind its checks. -/
theorem foldlM_checked_iff {step : σ → α → Outcome σ} {f : σ → α → σ} {P : σ → Prop}
    {Q : σ → α → Prop} {R : α → Prop} {as : List α} (hnodup : as.Nodup)
    (hstep : ∀ s, ∀ a ∈ as, P s → Q s a → ∀ t, step s a = .ok t ↔ R a ∧ t = f s a)
    (hkeep : ∀ s, ∀ a ∈ as, P s → Q s a →
      P (f s a) ∧ ∀ b ∈ as, b ≠ a → Q s b → Q (f s a) b)
    {s s' : σ} (hs : P s) (hQ : ∀ a ∈ as, Q s a) :
    as.foldlM step s = .ok s' ↔ (∀ a ∈ as, R a) ∧ s' = as.foldl f s := by
  induction as generalizing s with
  | nil => simp [@eq_comm _ s']
  | cons a as ih =>
    obtain ⟨hnot, hnodup⟩ := List.nodup_cons.mp hnodup
    obtain ⟨hQa, hQas⟩ := List.forall_mem_cons.mp hQ
    obtain ⟨hP, hothers⟩ := hkeep s a List.mem_cons_self hs hQa
    have hpending : ∀ b ∈ as, Q (f s a) b := by
      intro b hb
      apply hothers b (List.mem_cons_of_mem a hb) ?_ (hQas b hb)
      rintro rfl
      exact hnot hb
    have htail : as.foldlM step (f s a) = .ok s' ↔ (∀ b ∈ as, R b) ∧ s' = as.foldl f (f s a) :=
      ih hnodup (fun t b hb ↦ hstep t b (List.mem_cons_of_mem a hb))
        (fun t b hb hPt hQt ↦ by
          obtain ⟨hPf, hrest⟩ := hkeep t b (List.mem_cons_of_mem a hb) hPt hQt
          exact ⟨hPf, fun d hd ↦ hrest d (List.mem_cons_of_mem a hd)⟩)
        hP hpending
    simp only [List.foldlM_cons, bind_eq_ok, hstep s a List.mem_cons_self hs hQa,
      List.forall_mem_cons, List.foldl_cons]
    constructor
    · rintro ⟨t, ⟨ha, rfl⟩, h⟩
      obtain ⟨hrest, heq⟩ := htail.mp h
      exact ⟨⟨ha, hrest⟩, heq⟩
    · rintro ⟨⟨ha, hrest⟩, heq⟩
      exact ⟨f s a, ⟨ha, rfl⟩, htail.mpr ⟨hrest, heq⟩⟩

/-- In a loop over distinct elements of which only one changes what is read, that one decides what is
read after the loop. -/
theorem foldlM_single {τ : Type} {step : σ → α → Outcome σ} {Q : σ → Prop} {r : σ → τ}
    {R : τ → τ → Prop} {as : List α} {a : α} (ha : a ∈ as) (hnodup : as.Nodup)
    (hinv : ∀ s, ∀ b ∈ as, ∀ s', step s b = .ok s' → Q s → Q s')
    (hother : ∀ s, ∀ b ∈ as, b ≠ a → ∀ s', step s b = .ok s' → Q s → r s' = r s)
    (hset : ∀ s s', step s a = .ok s' → Q s → R (r s) (r s')) {s s' : σ}
    (h : as.foldlM step s = .ok s') (hs : Q s) : R (r s) (r s') := by
  obtain ⟨before, after, rfl⟩ := List.append_of_mem ha
  simp only [List.foldlM_append, List.foldlM_cons, bind_eq_ok] at h
  obtain ⟨t, hbefore, u, hu, hafter⟩ := h
  -- Both parts of the list avoid the element, so what is r changes in between only.
  have hkeep : ∀ part : List α, (∀ b ∈ part, b ∈ before ++ a :: after ∧ b ≠ a) → ∀ v v',
      part.foldlM step v = .ok v' → Q v → Q v' ∧ r v' = r v := by
    intro part hpart v v' hv hQ
    apply foldlM_invariant_of_mem (P := fun x ↦ Q x ∧ r x = r v) ?_ hv ⟨hQ, rfl⟩
    intro x b hb x' hx ⟨hQx, hread⟩
    obtain ⟨hmem, hne⟩ := hpart b hb
    exact ⟨hinv x b hmem x' hx hQx, (hother x b hmem hne x' hx hQx).trans hread⟩
  rw [List.nodup_append] at hnodup
  obtain ⟨-, hafterNodup, hdisjoint⟩ := hnodup
  obtain ⟨hQt, hreadt⟩ := hkeep before
    (fun b hb ↦ ⟨List.mem_append_left _ hb, hdisjoint b hb a List.mem_cons_self⟩) s t hbefore hs
  have hnot : a ∉ after := (List.nodup_cons.mp hafterNodup).1
  obtain ⟨-, hreads'⟩ := hkeep after
    (fun b hb ↦ ⟨List.mem_append_right _ (List.mem_cons_of_mem _ hb), fun hba ↦ hnot (hba ▸ hb)⟩)
    u s' hafter (hinv t a ha u hu hQt)
  rw [hreads', ← hreadt]
  exact hset t u hu hQt

/-- A loop over distinct keys, each step of which changes what is read at its own key only, leaves at
every key what its own step wrote. -/
theorem foldlM_pointwise {κ ν τ : Type} (read : σ → κ → τ) (P : σ → Prop) (R : τ → ν → τ → Prop)
    {step : σ → κ × ν → Outcome σ} {entries : List (κ × ν)}
    (hstep : ∀ s s', ∀ e ∈ entries, step s e = .ok s' → P s →
      P s' ∧ R (read s e.1) e.2 (read s' e.1) ∧ ∀ k, k ≠ e.1 → read s' k = read s k)
    (hnodup : (entries.map Prod.fst).Nodup) {s s' : σ}
    (h : entries.foldlM step s = .ok s') (hs : P s) :
    P s' ∧ (∀ e ∈ entries, R (read s e.1) e.2 (read s' e.1)) ∧
      ∀ k, k ∉ entries.map Prod.fst → read s' k = read s k := by
  induction entries generalizing s with
  | nil =>
    obtain rfl := pure_eq_ok.mp h
    exact ⟨hs, by simp, fun _ _ ↦ rfl⟩
  | cons e entries ih =>
    simp only [List.foldlM_cons, bind_eq_ok] at h
    obtain ⟨t, ht, h⟩ := h
    simp only [List.map_cons, List.nodup_cons] at hnodup
    obtain ⟨hnot, hnodup⟩ := hnodup
    obtain ⟨hPt, hRt, hframe⟩ := hstep s t e List.mem_cons_self ht hs
    obtain ⟨hP, hR, hrest⟩ :=
      ih (fun s s' e he ↦ hstep s s' e (List.mem_cons_of_mem _ he)) hnodup h hPt
    refine ⟨hP, ?_, ?_⟩
    · intro e' he'
      rcases List.mem_cons.mp he' with rfl | he'
      · rw [hrest e'.1 hnot]
        exact hRt
      · have hne : e'.1 ≠ e.1 := by
          intro heq
          exact hnot (heq ▸ List.mem_map_of_mem he')
        rw [← hframe e'.1 hne]
        exact hR e' he'
    · intro k hk
      simp only [List.map_cons, List.mem_cons, not_or] at hk
      rw [hrest k hk.2, hframe k hk.1]

/-- A loop that fills an array writes one entry for each element, in order. -/
theorem mapM_forall₂ {f : α → Outcome β} {as : List α} {bs : List β}
    (h : as.mapM f = .ok bs) : List.Forall₂ (fun a b ↦ f a = .ok b) as bs := by
  induction as generalizing bs with
  | nil =>
    simp only [List.mapM_nil, pure_eq_ok] at h
    subst h
    exact .nil
  | cons a as ih =>
    simp only [List.mapM_cons, bind_eq_ok, pure_eq_ok] at h
    obtain ⟨b, hb, bs, hbs, rfl⟩ := h
    exact .cons hb (ih hbs)

theorem exists_of_mem_mapM {f : α → Outcome β} {as : List α} {bs : List β} {b : β}
    (h : as.mapM f = .ok bs) (hb : b ∈ bs) : ∃ a ∈ as, f a = .ok b := by
  induction as generalizing bs with
  | nil =>
    simp only [List.mapM_nil, pure_eq_ok] at h
    subst h
    cases hb
  | cons a as ih =>
    simp only [List.mapM_cons, bind_eq_ok, pure_eq_ok] at h
    obtain ⟨b', hb', bs', hbs, rfl⟩ := h
    rcases List.mem_cons.mp hb with rfl | hb
    · exact ⟨a, List.mem_cons_self, hb'⟩
    · obtain ⟨a', ha', hfa⟩ := ih hbs hb
      exact ⟨a', List.mem_cons_of_mem _ ha', hfa⟩

theorem mapM_of_mem {f : α → Outcome β} {as : List α} {bs : List β} {a : α}
    (h : as.mapM f = .ok bs) (ha : a ∈ as) : ∃ b ∈ bs, f a = .ok b := by
  induction as generalizing bs with
  | nil => cases ha
  | cons a' as ih =>
    simp only [List.mapM_cons, bind_eq_ok, pure_eq_ok] at h
    obtain ⟨b, hb, bs', hbs, rfl⟩ := h
    rcases List.mem_cons.mp ha with rfl | ha
    · exact ⟨b, List.mem_cons_self, hb⟩
    · obtain ⟨b', hmem, hfa⟩ := ih hbs ha
      exact ⟨b', List.mem_cons_of_mem _ hmem, hfa⟩

/-- What can be read off each entry without knowing the array can be read off the array. -/
theorem map_eq_of_mapM {κ : Type} {f : α → Outcome β} {g : β → κ} {k : α → κ} {as : List α}
    {bs : List β} (hf : ∀ a b, f a = .ok b → g b = k a) (h : as.mapM f = .ok bs) :
    bs.map g = as.map k := by
  induction as generalizing bs with
  | nil =>
    simp only [List.mapM_nil, pure_eq_ok] at h
    rw [← h, List.map_nil, List.map_nil]
  | cons a as ih =>
    simp only [List.mapM_cons, bind_eq_ok, pure_eq_ok] at h
    obtain ⟨b, hb, bs, hbs, rfl⟩ := h
    rw [List.map_cons, List.map_cons, hf a b hb, ih hbs]

theorem map_fst_zip_mapM {f : α → Outcome β} {as : List α} {bs : List β}
    (h : as.mapM f = .ok bs) : (as.zip bs).map Prod.fst = as :=
  List.map_fst_zip (Nat.le_of_eq (mapM_forall₂ h).length_eq)

theorem zip_mapM_ok {f : α → Outcome β} {as : List α} {bs : List β} {e : α × β}
    (h : as.mapM f = .ok bs) (he : e ∈ as.zip bs) : f e.1 = .ok e.2 :=
  (List.forall₂_iff_zip.mp (mapM_forall₂ h)).2 he

/-! ## Both ways to end -/

/-- The value of a call that returns satisfies `Q`, the reason of a revert satisfies `E`. -/
structure Ensures (E : String → Prop) (Q : α → Prop) (x : Outcome α) : Prop where
  of_ok : ∀ {a}, x = .ok a → Q a
  of_error : ∀ {reason}, x = .error reason → E reason

namespace Ensures

variable {E : String → Prop} {Q : α → Prop}

theorem ok {a : α} (h : Q a) : Ensures E Q (.ok a) where
  of_ok heq := Except.ok.inj heq ▸ h
  of_error heq := nomatch heq

theorem error {reason : String} (h : E reason) : Ensures E Q (.error reason) where
  of_ok heq := nomatch heq
  of_error heq := Except.error.inj heq ▸ h

theorem bind {x : Outcome α} {f : α → Outcome β} {R : β → Prop} (hx : Ensures E Q x)
    (hf : ∀ a, Q a → Ensures E R (f a)) : Ensures E R (x >>= f) := by
  cases x with
  | error reason => exact error (hx.of_error rfl)
  | ok a => exact hf a (hx.of_ok rfl)

end Ensures

/-- The call reverts exactly when `fails` holds, and returns `value` otherwise. -/
structure Computes (x : Outcome α) (fails : Prop) (value : α) : Prop where
  reverts_iff : (∃ reason, x = .error reason) ↔ fails
  eq_ok : ¬ fails → x = .ok value

theorem computes_of_eq_ok_iff {x : Outcome α} {fails : Prop} {value : α}
    (h : ∀ a, x = .ok a ↔ ¬ fails ∧ a = value) : Computes x fails value where
  reverts_iff := by
    constructor
    · rintro ⟨reason, rfl⟩
      by_contra hfails
      cases (h value).mpr ⟨hfails, rfl⟩
    · intro hfails
      cases x with
      | error reason => exact ⟨reason, rfl⟩
      | ok a => exact absurd hfails ((h a).mp rfl).1
  eq_ok hfails := (h value).mpr ⟨hfails, rfl⟩

end Outcome

end SetProtocol
