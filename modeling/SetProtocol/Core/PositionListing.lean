import SetProtocol.Core.SetTokenLemmas
import SetProtocol.Foundation.Buffer

/-!
# The list of positions

`getPositions` counts the positions of the SetToken in one traversal and writes them into an array of
that length in another one.  Both visit a default position for each component with a positive virtual
unit and an external position for each listed module, so no write runs past the array and no slot stays
unset; what a component's entries add up to is what `getTotalComponentRealUnits` returns.
-/

namespace SetProtocol.SetToken

/-- One pass of the loop of `_getPositionCount`. -/
def countPositions (s : SetToken) (positionCount : ℕ) (component : Address) : Outcome ℕ :=
  let positionCount :=
    if 0 < s.defaultPositionVirtualUnit component then positionCount + 1 else positionCount
  let externalModules := s.externalPositionModules component
  if 0 < externalModules.length then
    SafeMath.add positionCount externalModules.length
  else
    pure positionCount

def getPositionCount (s : SetToken) : Outcome ℕ :=
  s.components.foldlM s.countPositions 0

/-- The default position of the outer loop of `getPositions`. -/
def fillDefaultPosition (s : SetToken) (component : Address) (positions : Buffer PositionEntry) :
    Outcome (Buffer PositionEntry) :=
  if 0 < s.defaultPositionVirtualUnit component then do
    let unit ← s.getDefaultPositionRealUnit component
    positions.push ⟨component, 0, unit, .default, []⟩
  else
    pure positions

/-- The inner loop of `getPositions`. -/
def fillExternalPosition (s : SetToken) (component : Address) (positions : Buffer PositionEntry)
    (currentModule : Address) : Outcome (Buffer PositionEntry) := do
  let unit ← s.getExternalPositionRealUnit component currentModule
  positions.push
    ⟨component, currentModule, unit, .external, s.externalPositionData component currentModule⟩

/-- The outer loop of `getPositions`. -/
def fillPositions (s : SetToken) (positions : Buffer PositionEntry) (component : Address) :
    Outcome (Buffer PositionEntry) := do
  let positions ← s.fillDefaultPosition component positions
  (s.externalPositionModules component).foldlM (s.fillExternalPosition component) positions

/-- `getPositions` with the array that it allocates. -/
def getPositionArray (s : SetToken) : Outcome (List (Option PositionEntry)) := do
  let positionCount ← s.getPositionCount
  let positions ← s.components.foldlM s.fillPositions (Buffer.allocate positionCount)
  pure positions.slots

/-- The positions of a component. -/
def positionsOf (s : SetToken) (component : Address) : List PositionEntry :=
  (if 0 < s.defaultPositionVirtualUnit component then
    [⟨component, 0, s.defaultRealUnit component, .default, []⟩] else []) ++
  (s.externalPositionModules component).map fun module ↦
    ⟨component, module, s.externalRealUnit component module, .external,
      s.externalPositionData component module⟩

/-- How many positions a component has. -/
def positionSize (s : SetToken) (component : Address) : ℕ :=
  (if 0 < s.defaultPositionVirtualUnit component then 1 else 0) +
    (s.externalPositionModules component).length

variable {s : SetToken} {component : Address} {count : ℕ}

theorem length_positionsOf (s : SetToken) (component : Address) :
    (s.positionsOf component).length = s.positionSize component := by
  unfold positionsOf positionSize
  rw [List.length_append, List.length_map]
  split_ifs <;> rfl

/-! ## Counting -/

theorem countPositions_ok {count' : ℕ} (h : s.countPositions count component = .ok count') :
    count' = count + s.positionSize component := by
  simp only [countPositions] at h
  unfold positionSize
  by_cases hmodules : 0 < (s.externalPositionModules component).length
  · rw [if_pos hmodules, SafeMath.add_eq_ok] at h
    split_ifs at h ⊢ <;> omega
  · rw [if_neg hmodules, Outcome.pure_eq_ok] at h
    split_ifs at h ⊢ <;> omega

theorem foldlM_countPositions_ok {components : List Address} {count' : ℕ}
    (h : components.foldlM s.countPositions count = .ok count') :
    count' = count + (components.map s.positionSize).sum := by
  induction components generalizing count with
  | nil => simpa using (Outcome.pure_eq_ok.mp h).symm
  | cons component components ih =>
    simp only [List.foldlM_cons, Outcome.bind_eq_ok] at h
    obtain ⟨next, hnext, hrest⟩ := h
    rw [ih hrest, countPositions_ok hnext, List.map_cons, List.sum_cons, Nat.add_assoc]

theorem getPositionCount_ok (h : s.getPositionCount = .ok count) :
    count = (s.components.map s.positionSize).sum := by
  simpa using foldlM_countPositions_ok h

/-! ## Filling -/

theorem fillDefaultPosition_filled (entries : List PositionEntry) (room : ℕ) :
    s.fillDefaultPosition component (Buffer.filled entries
        ((if 0 < s.defaultPositionVirtualUnit component then 1 else 0) + room)) =
      (s.listDefaultPosition component).map fun emitted ↦
        Buffer.filled (entries ++ emitted) room := by
  unfold fillDefaultPosition listDefaultPosition
  split_ifs with hpos
  · cases s.getDefaultPositionRealUnit component with
    | error reason => rfl
    | ok unit =>
      simp only [Outcome.ok_bind]
      rw [Buffer.push_filled]
      rfl
  · simp [pure, Except.pure, Except.map]

theorem fillExternalPosition_filled (module : Address) (entries : List PositionEntry) (room : ℕ) :
    s.fillExternalPosition component (Buffer.filled entries (1 + room)) module =
      (s.listExternalPosition component module).map fun entry ↦
        Buffer.filled (entries ++ [entry]) room := by
  unfold fillExternalPosition listExternalPosition
  cases s.getExternalPositionRealUnit component module with
  | error reason => rfl
  | ok unit =>
    simp only [Outcome.ok_bind]
    rw [Buffer.push_filled]
    rfl

/-- One pass of the outer loop writes the positions of its component. -/
theorem fillPositions_filled (component : Address) (entries : List PositionEntry) (room : ℕ) :
    s.fillPositions (Buffer.filled entries (s.positionSize component + room)) component =
      (s.listPositions component).map fun emitted ↦ Buffer.filled (entries ++ emitted) room := by
  unfold fillPositions listPositions positionSize
  rw [Nat.add_assoc, fillDefaultPosition_filled]
  cases s.listDefaultPosition component with
  | error reason => rfl
  | ok defaults =>
    simp only [Except.map, Outcome.ok_bind]
    rw [Buffer.foldlM_filled_one fillExternalPosition_filled]
    cases (s.externalPositionModules component).mapM (s.listExternalPosition component) with
    | error reason => rfl
    | ok externals => simp [Except.map, pure, Except.pure]

/-- The array is allocated with exactly the room that the entries need. -/
theorem getPositionArray_eq (hcount : s.getPositionCount = .ok count) :
    s.getPositionArray = s.getPositions.map fun entries ↦ entries.map some := by
  have hfill := Buffer.foldlM_filled (fillPositions_filled (s := s)) s.components [] 0
  rw [Nat.add_zero, ← getPositionCount_ok hcount, ← Buffer.allocate_eq_filled] at hfill
  unfold getPositionArray getPositions
  rw [hcount, Outcome.ok_bind, hfill]
  cases s.components.mapM s.listPositions with
  | error reason => rfl
  | ok positions => simp [Except.map, pure, Except.pure, Buffer.filled_slots_zero]

/-! ## What is listed -/

theorem listPositions_ok {entries : List PositionEntry}
    (h : s.listPositions component = .ok entries) : entries = s.positionsOf component := by
  simp only [listPositions, Outcome.bind_eq_ok, Outcome.pure_eq_ok] at h
  obtain ⟨defaults, hdefaults, externals, hexternals, rfl⟩ := h
  have hexternal : externals = (s.externalPositionModules component).map fun module ↦
      ⟨component, module, s.externalRealUnit component module, .external,
        s.externalPositionData component module⟩ := by
    rw [← List.map_id externals]
    apply Outcome.map_eq_of_mapM ?_ hexternals
    intro module entry hentry
    simp only [listExternalPosition, Outcome.bind_eq_ok, Outcome.pure_eq_ok,
      getExternalPositionRealUnit_eq_ok] at hentry
    obtain ⟨_, ⟨-, rfl⟩, rfl⟩ := hentry
    rfl
  unfold listDefaultPosition at hdefaults
  unfold positionsOf
  rw [hexternal]
  split_ifs at hdefaults ⊢ with hpos
  · simp only [Outcome.bind_eq_ok, Outcome.pure_eq_ok, getDefaultPositionRealUnit_eq_ok]
      at hdefaults
    obtain ⟨_, ⟨-, rfl⟩, rfl⟩ := hdefaults
    rfl
  · rw [← Outcome.pure_eq_ok.mp hdefaults]

theorem getPositions_ok {entries : List PositionEntry} (h : s.getPositions = .ok entries) :
    entries = s.components.flatMap s.positionsOf := by
  simp only [getPositions, Outcome.bind_eq_ok, Outcome.pure_eq_ok] at h
  obtain ⟨positions, hpositions, rfl⟩ := h
  rw [List.flatMap_def, ← Outcome.map_eq_of_mapM (g := id) (fun _ _ ↦ listPositions_ok) hpositions,
    List.map_id]

theorem mem_components_of_mem_getPositions {entries : List PositionEntry} {entry : PositionEntry}
    (h : s.getPositions = .ok entries) (hentry : entry ∈ entries) : entry.component ∈ s.components := by
  rw [getPositions_ok h, List.mem_flatMap] at hentry
  obtain ⟨c, hc, hentry⟩ := hentry
  unfold positionsOf at hentry
  rw [List.mem_append, List.mem_map] at hentry
  obtain hdefault | ⟨module, -, rfl⟩ := hentry
  · split_ifs at hdefault
    · rw [List.mem_singleton.mp hdefault]
      exact hc
    · cases hdefault
  · exact hc

/-- The total is the default unit and all external units. -/
theorem foldlM_add_ok {modules : List Address} {unit total : ℤ}
    (h : modules.foldlM (fun totalUnits module ↦ do
      let unit ← s.getExternalPositionRealUnit component module
      SignedSafeMath.add totalUnits unit) unit = .ok total) :
    total = unit + (modules.map (s.externalRealUnit component)).sum := by
  induction modules generalizing unit with
  | nil => simpa using (Outcome.pure_eq_ok.mp h).symm
  | cons module modules ih =>
    simp only [List.foldlM_cons, Outcome.bind_eq_ok, getExternalPositionRealUnit_eq_ok,
      SignedSafeMath.add_eq_ok] at h
    obtain ⟨_, ⟨_, ⟨-, rfl⟩, -, rfl⟩, hrest⟩ := h
    rw [ih hrest, List.map_cons, List.sum_cons, add_assoc]

/-- The units of a component's entries add up to its total. -/
theorem sum_positionsOf {total : ℤ} (hnonneg : 0 ≤ s.defaultPositionVirtualUnit component)
    (h : s.getTotalComponentRealUnits component = .ok total) :
    ((s.positionsOf component).map PositionEntry.unit).sum = total := by
  simp only [getTotalComponentRealUnits, Outcome.bind_eq_ok, getDefaultPositionRealUnit_eq_ok] at h
  obtain ⟨_, ⟨-, rfl⟩, hloop⟩ := h
  rw [foldlM_add_ok hloop]
  unfold positionsOf
  rw [List.map_append, List.sum_append, List.map_map]
  congr 1
  split_ifs with hpos
  · simp
  · have hzero : s.defaultPositionVirtualUnit component = 0 := by omega
    simp [defaultRealUnit, hzero]

/-- Every visit of a component adds its entries, and the visits of others add none. -/
theorem sum_filter_flatMap_positionsOf (components : List Address) (component : Address) :
    (((components.flatMap s.positionsOf).filter fun entry ↦ entry.component = component).map
        PositionEntry.unit).sum =
      components.count component * ((s.positionsOf component).map PositionEntry.unit).sum := by
  have hcomponent : ∀ c, ∀ entry ∈ s.positionsOf c, entry.component = c := by
    intro c entry hentry
    unfold positionsOf at hentry
    split_ifs at hentry <;> simp at hentry <;> grind
  induction components with
  | nil => simp
  | cons c components ih =>
    rw [List.flatMap_cons, List.filter_append, List.map_append, List.sum_append, ih,
      List.count_cons]
    by_cases hc : c = component
    · have hall : (s.positionsOf c).filter (fun entry ↦ entry.component = component) =
          s.positionsOf component := by
        rw [hc, List.filter_eq_self]
        intro entry hentry
        simpa using hcomponent component entry hentry
      rw [hall, if_pos (by simpa using hc)]
      push_cast
      ring
    · have hnone : (s.positionsOf c).filter (fun entry ↦ entry.component = component) = [] := by
        rw [List.filter_eq_nil_iff]
        intro entry hentry
        simpa [hcomponent c entry hentry] using hc
      rw [hnone, if_neg (by simpa using hc)]
      simp

/-- The units of all entries of a component. -/
def listedUnits (s : SetToken) (component : Address) : ℤ :=
  (((s.components.flatMap s.positionsOf).filter fun entry ↦ entry.component = component).map
    PositionEntry.unit).sum

/-- `getPositions` fills every slot of its array and writes no other; the entries are those of the
components in their order, and the units of a component's entries add up to its total, once for each
time that the component is listed. -/
theorem getPositions_exact (s : SetToken)
    (hnonneg : ∀ c ∈ s.components, 0 ≤ s.defaultPositionVirtualUnit c)
    (hcount : s.getPositionCount = .ok count) :
    (s.getPositionArray = s.getPositions.map fun entries ↦ entries.map some) ∧
      ∀ slots, s.getPositionArray = .ok slots →
        slots.length = count ∧ slots = (s.components.flatMap s.positionsOf).map some ∧
          ∀ c ∈ s.components, ∀ total, s.getTotalComponentRealUnits c = .ok total →
            s.listedUnits c = s.components.count c * total ∧
              (s.components.Nodup → s.listedUnits c = total) := by
  refine ⟨getPositionArray_eq hcount, ?_⟩
  intro slots hslots
  have hslots' : slots = (s.components.flatMap s.positionsOf).map some := by
    rw [getPositionArray_eq hcount] at hslots
    cases hentries : s.getPositions with
    | error reason =>
      rw [hentries] at hslots
      cases hslots
    | ok entries =>
      rw [hentries] at hslots
      cases hslots
      rw [getPositions_ok hentries]
  refine ⟨?_, hslots', ?_⟩
  · rw [hslots', getPositionCount_ok hcount, List.length_map, List.length_flatMap]
    congr 1
    apply List.map_congr_left
    intro c _
    exact length_positionsOf s c
  · intro c hc total htotal
    have hlisted : s.listedUnits c = s.components.count c * total := by
      unfold listedUnits
      rw [sum_filter_flatMap_positionsOf, sum_positionsOf (hnonneg c hc) htotal]
    refine ⟨hlisted, ?_⟩
    intro hnodup
    rw [hlisted, List.count_eq_one_of_mem hnodup hc, Nat.cast_one, one_mul]

namespace Listing

/-- Component 7 has a default position; in component 8, modules 5 and 9 are listed, and module 9 has no
unit. -/
def token : SetToken :=
  ((launched 6 [7, 8] [100, 0] [5, 9] 2 2 100).setExternalModules 8 [5, 9]).setExternalPosition 8 5
    ⟨-3, [1]⟩

def slots : List (Option PositionEntry) := token.getPositionArray.getD []

theorem slots_exact :
    token.getPositionCount = .ok 3 ∧ slots.length = 3 ∧
      slots = (token.components.flatMap token.positionsOf).map some ∧ token.listedUnits 8 = -3 := by
  have hnonneg : ∀ c ∈ token.components, 0 ≤ token.defaultPositionVirtualUnit c := by
    have hcomponents : token.components = [7, 8] := rfl
    rw [hcomponents, List.forall_mem_cons, List.forall_mem_singleton]
    decide +kernel
  have hcount : token.getPositionCount = .ok 3 := by decide +kernel
  have hslots : token.getPositionArray = .ok slots := Outcome.eq_ok_getD [] (by decide +kernel)
  have hmem : 8 ∈ token.components := by decide +kernel
  have htotal : token.getTotalComponentRealUnits 8 = .ok (-3) := by decide +kernel
  obtain ⟨hlength, hentries, hunits⟩ := (getPositions_exact token hnonneg hcount).2 slots hslots
  exact ⟨hcount, hlength, hentries, (hunits 8 hmem (-3) htotal).2 (by decide +kernel)⟩

end Listing

end SetProtocol.SetToken
