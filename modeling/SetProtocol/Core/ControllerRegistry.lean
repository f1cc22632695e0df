import SetProtocol.Core.Controller
import SetProtocol.Foundation.Registry

/-!
# The registries of the Controller agree

Sets, factories, modules and resources are stored as lists and as flags, and resources by their ids as
well.  The functions that add and remove entries keep these views in agreement, except that a
resource at address zero would be the value of every free id.  `initialize` takes its lists as they
are, so the views agree exactly when the lists have no repetitions.
-/

namespace SetProtocol.Controller

structure RegistriesAgree (c : Controller) : Prop where
  sets : Lists c.sets (c.isSet · = true)
  factories : Lists c.factories (c.isFactory · = true)
  modules : Lists c.modules (c.isModule · = true)
  resources : Lists c.resources (c.isResource · = true)
  resource_id : ∀ r ∈ c.resources, ∃! id, c.resourceId id = r
  id_resource : ∀ id, c.resourceId id ≠ 0 → c.resourceId id ∈ c.resources

/-- The functions that add and remove entries. -/
inductive RegistryCall where
  | addSet (setToken : Address)
  | removeSet (setToken : Address)
  | addFactory (factory : Address)
  | removeFactory (factory : Address)
  | addModule (module : Address)
  | removeModule (module : Address)
  | addResource (resource : Address) (id : ℕ)
  | removeResource (id : ℕ)

/-- A call by an account. -/
def performRegistryCall (c : Controller) (call : Address × RegistryCall) : Outcome Controller :=
  match call.2 with
  | .addSet setToken => c.addSet call.1 setToken
  | .removeSet setToken => c.removeSet call.1 setToken
  | .addFactory factory => c.addFactory call.1 factory
  | .removeFactory factory => c.removeFactory call.1 factory
  | .addModule module => c.addModule call.1 module
  | .removeModule module => c.removeModule call.1 module
  | .addResource resource id => c.addResource call.1 resource id
  | .removeResource id => c.removeResource call.1 id

/-- The call does not add the zero address as a resource. -/
def RegistryCall.AddsNoZero : RegistryCall → Prop
  | .addResource resource _ => resource ≠ 0
  | _ => True

/-! ## One call -/

variable {c c' : Controller} {sender : Address}

theorem update_true_iff {flags : Address → Bool} {a b : Address} :
    Function.update flags a true b = true ↔ b = a ∨ flags b = true := by
  by_cases h : b = a <;> simp [h]

theorem update_false_iff {flags : Address → Bool} {a b : Address} :
    Function.update flags a false b = true ↔ b ≠ a ∧ flags b = true := by
  by_cases h : b = a <;> simp [h]

theorem Lists.add {A : List Address} {flags : Address → Bool} {a : Address}
    (h : Lists A (flags · = true)) (ha : flags a = false) :
    Lists (A ++ [a]) (Function.update flags a true · = true) :=
  h.concat (by simp [ha]) fun _ ↦ update_true_iff

theorem Lists.remove {A : List Address} {flags : Address → Bool} (a : Address)
    (h : Lists A (flags · = true)) :
    Lists (A.erase a) (Function.update flags a false · = true) :=
  h.erase fun _ ↦ update_false_iff

/-- The invariant of histories without a resource at address zero. -/
structure Registered (c : Controller) : Prop extends c.RegistriesAgree where
  zero_notMem : (0 : Address) ∉ c.resources

namespace Registered

theorem addResource {r : Address} {id : ℕ} (h : c.Registered) (hr : r ≠ 0)
    (hcall : c.addResource sender r id = .ok c') : c'.Registered := by
  simp only [Controller.addResource, Outcome.bind_eq_ok, Outcome.require_eq_ok,
    Outcome.pure_eq_ok] at hcall
  obtain ⟨_, -, _, -, _, hnew, _, hfree, rfl⟩ := hcall
  have hnot : r ∉ c.resources := by
    rw [h.resources.mem_iff, hnew]
    exact Bool.false_ne_true
  refine
    { sets := h.sets
      factories := h.factories
      modules := h.modules
      resources := Lists.add h.resources hnew
      resource_id := ?_
      id_resource := ?_
      zero_notMem := by simpa using ⟨h.zero_notMem, hr.symm⟩ }
  · intro r' hr'
    rcases List.mem_append.mp hr' with hold | hlast
    · obtain ⟨i, hi, hunique⟩ := h.resource_id r' hold
      -- The id of an old resource is in use, so the new resource got another one.
      have hid : i ≠ id := by
        intro heq
        apply h.zero_notMem
        rw [← hfree, ← heq, hi]
        exact hold
      refine ⟨i, by simpa [hid] using hi, ?_⟩
      intro j hj
      by_cases hjid : j = id
      · subst hjid
        simp only [Function.update_self] at hj
        exact absurd hold (hj ▸ hnot)
      · simp only [Function.update_of_ne hjid] at hj
        exact hunique j hj
    · obtain rfl := List.mem_singleton.mp hlast
      refine ⟨id, by simp, ?_⟩
      intro j hj
      by_contra hjid
      simp only [Function.update_of_ne hjid] at hj
      exact hnot (hj ▸ h.id_resource j (hj ▸ hr))
  · intro i hi
    by_cases hid : i = id
    · subst hid
      simp
    · simp only [Function.update_of_ne hid] at hi ⊢
      exact List.mem_append_left _ (h.id_resource i hi)

theorem removeResource {id : ℕ} (h : c.Registered)
    (hcall : c.removeResource sender id = .ok c') : c'.Registered := by
  simp only [Controller.removeResource, Outcome.bind_eq_ok, Outcome.require_eq_ok,
    AddressArrayUtils.remove_eq_ok, Outcome.pure_eq_ok] at hcall
  obtain ⟨_, -, _, -, _, hne, _, ⟨hmem, rfl⟩, rfl⟩ := hcall
  obtain ⟨_, -, honly⟩ := h.resource_id _ hmem
  have hremoved := Lists.remove (c.resourceId id) h.resources
  -- Only the removed id had the removed resource.
  have hother : ∀ i, i ≠ id → c.resourceId i ≠ c.resourceId id := by
    intro i hi heq
    exact hi ((honly i heq).trans (honly id rfl).symm)
  refine
    { sets := h.sets
      factories := h.factories
      modules := h.modules
      resources := hremoved
      resource_id := ?_
      id_resource := ?_
      zero_notMem := fun hzero ↦ h.zero_notMem (List.mem_of_mem_erase hzero) }
  · intro r hr
    obtain ⟨hrne, hrmem⟩ := h.resources.nodup.mem_erase_iff.mp hr
    obtain ⟨i, hi, hunique⟩ := h.resource_id r hrmem
    have hid : i ≠ id := by
      intro heq
      exact hrne (by rw [← hi, heq])
    refine ⟨i, by simpa [hid] using hi, ?_⟩
    intro j hj
    by_cases hjid : j = id
    · subst hjid
      simp only [Function.update_self] at hj
      exact absurd (hj ▸ hrmem) h.zero_notMem
    · simp only [Function.update_of_ne hjid] at hj
      exact hunique j hj
  · intro i hi
    by_cases hid : i = id
    · subst hid
      simp at hi
    · simp only [Function.update_of_ne hid] at hi ⊢
      exact h.resources.nodup.mem_erase_iff.mpr ⟨hother i hid, h.id_resource i hi⟩

/-- A call that does not add the zero address as a resource keeps the registries in agreement. -/
theorem performRegistryCall {call : Address × RegistryCall} (h : c.Registered)
    (hzero : call.2.AddsNoZero) (hcall : c.performRegistryCall call = .ok c') :
    c'.Registered := by
  obtain ⟨sender, call⟩ := call
  cases call with
  | addSet setToken =>
    simp only [Controller.performRegistryCall, Controller.addSet, Outcome.bind_eq_ok,
      Outcome.require_eq_ok, Outcome.pure_eq_ok] at hcall
    obtain ⟨_, -, _, -, _, hnew, rfl⟩ := hcall
    exact { h with sets := Lists.add h.sets hnew }
  | removeSet setToken =>
    simp only [Controller.performRegistryCall, Controller.removeSet, Outcome.bind_eq_ok,
      AddressArrayUtils.remove_eq_ok, Outcome.pure_eq_ok] at hcall
    obtain ⟨_, -, _, -, _, -, _, ⟨-, rfl⟩, rfl⟩ := hcall
    exact { h with sets := Lists.remove setToken h.sets }
  | addFactory factory =>
    simp only [Controller.performRegistryCall, Controller.addFactory, Outcome.bind_eq_ok,
      Outcome.require_eq_ok, Outcome.pure_eq_ok] at hcall
    obtain ⟨_, -, _, -, _, hnew, rfl⟩ := hcall
    exact { h with factories := Lists.add h.factories hnew }
  | removeFactory factory =>
    simp only [Controller.performRegistryCall, Controller.removeFactory, Outcome.bind_eq_ok,
      AddressArrayUtils.remove_eq_ok, Outcome.pure_eq_ok] at hcall
    obtain ⟨_, -, _, -, _, -, _, ⟨-, rfl⟩, rfl⟩ := hcall
    exact { h with factories := Lists.remove factory h.factories }
  | addModule module =>
    simp only [Controller.performRegistryCall, Controller.addModule, Outcome.bind_eq_ok,
      Outcome.require_eq_ok, Outcome.pure_eq_ok] at hcall
    obtain ⟨_, -, _, -, _, hnew, rfl⟩ := hcall
    exact { h with modules := Lists.add h.modules hnew }
  | removeModule module =>
    simp only [Controller.performRegistryCall, Controller.removeModule, Outcome.bind_eq_ok,
      AddressArrayUtils.remove_eq_ok, Outcome.pure_eq_ok] at hcall
    obtain ⟨_, -, _, -, _, -, _, ⟨-, rfl⟩, rfl⟩ := hcall
    exact { h with modules := Lists.remove module h.modules }
  | addResource resource id => exact h.addResource hzero hcall
  | removeResource id => exact h.removeResource hcall

end Registered

/-! ## The batch initializer -/

/-- The loop over factories or modules sets the flags of its entries and rejects address zero. -/
theorem foldlM_enableAddress_ok {A : List Address} {flags flags' : Address → Bool}
    (h : A.foldlM enableAddress flags = .ok flags') :
    ∀ a, flags' a = true ↔ a ∈ A ∨ flags a = true := by
  induction A generalizing flags with
  | nil =>
    obtain rfl := Outcome.pure_eq_ok.mp h
    simp
  | cons b A ih =>
    simp only [List.foldlM_cons, enableAddress, Outcome.bind_eq_ok, Outcome.require_eq_ok,
      Outcome.pure_eq_ok] at h
    obtain ⟨_, ⟨_, -, rfl⟩, h⟩ := h
    intro a
    rw [ih h, update_true_iff, List.mem_cons]
    tauto

/-- The loop over resources: the entries are non-zero, their ids were free and are distinct, and
each id gets its entry. -/
theorem foldlM_enableResource_ok {entries : List (Address × ℕ)}
    {flags flags' : (Address → Bool) × (ℕ → Address)}
    (h : entries.foldlM enableResource flags = .ok flags') :
    (∀ a, flags'.1 a = true ↔ a ∈ entries.map Prod.fst ∨ flags.1 a = true) ∧
      (∀ e ∈ entries, e.1 ≠ 0 ∧ flags.2 e.2 = 0 ∧ flags'.2 e.2 = e.1) ∧
      ∀ id, id ∉ entries.map Prod.snd → flags'.2 id = flags.2 id := by
  induction entries generalizing flags with
  | nil =>
    obtain rfl := Outcome.pure_eq_ok.mp h
    simp
  | cons e entries ih =>
    simp only [List.foldlM_cons, enableResource, Outcome.bind_eq_ok, Outcome.require_eq_ok,
      Outcome.pure_eq_ok] at h
    obtain ⟨_, ⟨_, hne, _, hfree, rfl⟩, h⟩ := h
    obtain ⟨hflags, hentries, hrest⟩ := ih h
    dsimp only at hflags hentries hrest
    -- A later entry with the same id would have been rejected.
    have hnot : e.2 ∉ entries.map Prod.snd := by
      intro hmem
      obtain ⟨e', he', hid⟩ := List.mem_map.mp hmem
      have hused := (hentries e' he').2.1
      rw [hid, Function.update_self] at hused
      exact hne hused
    refine ⟨?_, ?_, ?_⟩
    · intro a
      rw [hflags, update_true_iff, List.map_cons, List.mem_cons]
      tauto
    · intro e' he'
      rcases List.mem_cons.mp he' with rfl | he'
      · refine ⟨hne, hfree, ?_⟩
        rw [hrest _ hnot, Function.update_self]
      · obtain ⟨hne', hfree', hset⟩ := hentries e' he'
        have hid : e'.2 ≠ e.2 := by
          intro heq
          exact hnot (heq ▸ List.mem_map_of_mem he')
        rw [Function.update_of_ne hid] at hfree'
        exact ⟨hne', hfree', hset⟩
    · intro id hid
      rw [List.map_cons, List.mem_cons, not_or] at hid
      rw [hrest id hid.2, Function.update_of_ne hid.1]

/-- A Controller initialized with lists without repetitions has its registries in agreement. -/
theorem initializeController_registered {address owner feeRecipient : Address}
    {factories modules resources : List Address} {resourceIds : List ℕ}
    (h : (new address owner feeRecipient).initializeController sender factories modules resources
      resourceIds = .ok c)
    (hfactories : factories.Nodup) (hmodules : modules.Nodup) (hresources : resources.Nodup) :
    c.Registered := by
  simp only [initializeController, Outcome.bind_eq_ok, Outcome.require_eq_ok,
    Outcome.pure_eq_ok] at h
  obtain ⟨_, -, _, -, _, hlength, isFactory, hfactory, isModule, hmodule, enabled, hresource,
    rfl⟩ := h
  obtain ⟨hflags, hentries, hrest⟩ := foldlM_enableResource_ok hresource
  have hfst : (resources.zip resourceIds).map Prod.fst = resources :=
    List.map_fst_zip hlength.le
  -- Every resource has its entry, and every used id belongs to an entry.
  have hentry : ∀ r ∈ resources, ∃ e ∈ resources.zip resourceIds, e.1 = r := by
    intro r hr
    rw [← hfst] at hr
    exact List.mem_map.mp hr
  have hused : ∀ id, enabled.2 id ≠ 0 → ∃ e ∈ resources.zip resourceIds, e.2 = id := by
    intro id hid
    by_contra hnone
    apply hid
    apply hrest id
    intro hmem
    exact hnone (List.mem_map.mp hmem)
  refine
    { sets := .nil fun a ↦ Bool.false_ne_true
      factories := ⟨hfactories, fun a ↦ ?_⟩
      modules := ⟨hmodules, fun a ↦ ?_⟩
      resources := ⟨hresources, fun a ↦ ?_⟩
      resource_id := ?_
      id_resource := ?_
      zero_notMem := ?_ }
  · simp [foldlM_enableAddress_ok hfactory a, new]
  · simp [foldlM_enableAddress_ok hmodule a, new]
  · simp [hflags a, hfst, new]
  · intro r hr
    obtain ⟨e, he, rfl⟩ := hentry r hr
    obtain ⟨hne, -, hset⟩ := hentries e he
    refine ⟨e.2, hset, ?_⟩
    intro id hid
    change enabled.2 id = e.1 at hid
    obtain ⟨e', he', rfl⟩ := hused id (hid ▸ hne)
    -- Entries with one resource are one entry, as the list has no repetitions.
    have heq : e'.1 = e.1 := by
      rw [← hid, (hentries e' he').2.2]
    exact congrArg Prod.snd (List.inj_on_of_nodup_map (hfst.symm ▸ hresources) he' he heq)
  · intro id hid
    obtain ⟨e, he, rfl⟩ := hused id hid
    change enabled.2 e.2 ∈ resources
    rw [(hentries e he).2.2]
    exact (List.of_mem_zip he).1
  · intro hzero
    obtain ⟨e, he, hez⟩ := hentry 0 hzero
    exact (hentries e he).1 hez

/-! ## Whole histories -/

/-- After `initialize`, all histories that do not add a zero resource keep the registries in
agreement exactly when the lists given to `initialize` have no repetitions. -/
theorem registriesAgree_of_initialize_iff {address owner feeRecipient : Address}
    {factories modules resources : List Address} {resourceIds : List ℕ}
    (h : (new address owner feeRecipient).initializeController sender factories modules resources
      resourceIds = .ok c) :
    (∀ (calls : List (Address × RegistryCall)) (c' : Controller),
        (∀ call ∈ calls, call.2.AddsNoZero) →
        calls.foldlM performRegistryCall c = .ok c' → c'.RegistriesAgree) ↔
      factories.Nodup ∧ modules.Nodup ∧ resources.Nodup := by
  constructor
  · intro hall
    have hc := hall [] c (by simp) rfl
    simp only [initializeController, Outcome.bind_eq_ok, Outcome.pure_eq_ok] at h
    obtain ⟨_, -, _, -, _, -, _, -, _, -, _, -, rfl⟩ := h
    exact ⟨hc.factories.nodup, hc.modules.nodup, hc.resources.nodup⟩
  · rintro ⟨hfactories, hmodules, hresources⟩ calls c' hzero hrun
    have hc := initializeController_registered h hfactories hmodules hresources
    exact (Outcome.foldlM_invariant_of_mem
      (fun _ call hcall _ hstep hs ↦ hs.performRegistryCall (hzero call hcall) hstep)
      hrun hc).toRegistriesAgree

/-- The owner 2 gives the factory 4 twice. -/
def repeatedFactory : Outcome Controller :=
  (new 1 2 3).initializeController 2 [4, 4] [5] [6] [0]

theorem repeatedFactory_not_registriesAgree :
    repeatedFactory.isOk = true ∧ ¬ (repeatedFactory.getD (new 1 2 3)).RegistriesAgree := by
  refine ⟨by decide +kernel, ?_⟩
  intro h
  have hnodup := h.factories.nodup
  have hlist : (repeatedFactory.getD (new 1 2 3)).factories = [4, 4] := by decide +kernel
  rw [hlist] at hnodup
  exact absurd hnodup (by decide)

/-- A history in which a factory, a module and a resource come and go. -/
def registryHistory : List (Address × RegistryCall) :=
  [.addModule 7, .addResource 8 9, .removeModule 5, .removeResource 0].map (2, ·)

theorem registryHistory_registriesAgree :
    ((registryHistory.foldlM performRegistryCall
        (((new 1 2 3).initializeController 2 [4] [5] [6] [0]).getD (new 1 2 3))).getD
          (new 1 2 3)).resources = [8] ∧
      ((registryHistory.foldlM performRegistryCall
        (((new 1 2 3).initializeController 2 [4] [5] [6] [0]).getD (new 1 2 3))).getD
          (new 1 2 3)).RegistriesAgree := by
  refine ⟨by decide +kernel, ?_⟩
  have hinit := Outcome.eq_ok_getD (x := (new 1 2 3).initializeController 2 [4] [5] [6] [0])
    (new 1 2 3) (by decide +kernel)
  apply (registriesAgree_of_initialize_iff hinit).mpr (by decide) registryHistory
  · simp [registryHistory, RegistryCall.AddsNoZero]
  · exact Outcome.eq_ok_getD _ (by decide +kernel)

end SetProtocol.Controller
