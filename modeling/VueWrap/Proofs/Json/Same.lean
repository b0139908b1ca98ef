import VueWrap.Proofs.Decimal.Size
import VueWrap.Proofs.Json.ReadBack

/-! # Equal values

A value without floats equals itself, and of two equal values the second is no
less deep than the first. So no value equals one that it is a part of.
-/

namespace VueWrap.Value

variable {k : String} {v w : Value} {l m n : Int ⊕ Double} {vs ws : List Value}
  {fs gs : List (String × Value)}

theorem sameFields_iff :
    sameFields fs gs = true ↔ ∀ f ∈ fs, ∃ w, gs.lookup f.1 = some w ∧ same f.2 w = true := by
  induction fs with
  | nil => simp [sameFields]
  | cons f fs ih =>
    rw [sameFields, Bool.and_eq_true, ih, List.forall_mem_cons]
    cases gs.lookup f.1 <;> simp

theorem mem_of_lookup_eq_some (h : fs.lookup k = some v) : (k, v) ∈ fs := by
  obtain ⟨before, after, rfl, -⟩ := List.lookup_eq_some_iff.mp h
  simp

theorem lookup_eq_some_of_mem (hkeys : (fs.map (·.1)).Nodup) (h : (k, v) ∈ fs) :
    fs.lookup k = some v := by
  obtain ⟨before, after, rfl⟩ := List.append_of_mem h
  refine List.lookup_eq_some_iff.mpr ⟨before, after, rfl, fun f hf => ?_⟩
  rw [List.map_append, List.map_cons, List.nodup_append] at hkeys
  simpa using (hkeys.2.2 f.1 (List.mem_map_of_mem hf) k List.mem_cons_self).symm

theorem sameItems_self (h : ∀ v ∈ vs, same v v = true) : sameItems vs vs = true := by
  induction vs with
  | nil => rfl
  | cons v vs ih =>
    obtain ⟨hv, hvs⟩ := List.forall_mem_cons.mp h
    rw [sameItems, hv, ih hvs, Bool.and_self]

theorem Plain.same_self (h : v.Plain) : same v v = true := by
  induction h with
  | null => rfl
  | bool b => simp [same, number?, sameNumber]
  | int n => simp [same, number?, sameNumber]
  | str s => simp [same]
  | arr _ ih => exact sameItems_self ih
  | obj hkeys _ ih =>
    rw [same, decide_eq_true rfl, Bool.true_and, sameFields_iff]
    exact fun f hf => ⟨f.2, lookup_eq_some_of_mem hkeys hf, ih f hf⟩

mutual

/-- How many lists and objects stand around the innermost item of the value. -/
def depth : Value → Nat
  | arr vs => itemsDepth vs + 1
  | obj fs => fieldsDepth fs + 1
  | _ => 0

def itemsDepth : List Value → Nat
  | [] => 0
  | v :: vs => max v.depth (itemsDepth vs)

def fieldsDepth : List (String × Value) → Nat
  | [] => 0
  | (_, v) :: fs => max v.depth (fieldsDepth fs)

end

theorem depth_le_itemsDepth (h : v ∈ vs) : v.depth ≤ itemsDepth vs := by
  induction vs with
  | nil => cases h
  | cons w vs ih =>
    rw [itemsDepth]
    rcases List.mem_cons.mp h with rfl | h
    · exact Nat.le_max_left _ _
    · exact Nat.le_trans (ih h) (Nat.le_max_right _ _)

theorem depth_le_fieldsDepth (h : (k, v) ∈ fs) : v.depth ≤ fieldsDepth fs := by
  induction fs with
  | nil => cases h
  | cons f fs ih =>
    rw [fieldsDepth]
    rcases List.mem_cons.mp h with rfl | h
    · exact Nat.le_max_left _ _
    · exact Nat.le_trans (ih h) (Nat.le_max_right _ _)

theorem depth_lt_of_mem_arr (h : v ∈ vs) : v.depth < (arr vs).depth := by
  rw [depth.eq_1]
  exact Nat.lt_succ_of_le (depth_le_itemsDepth h)

theorem depth_lt_of_mem_obj (h : (k, v) ∈ fs) : v.depth < (obj fs).depth := by
  rw [depth.eq_2]
  exact Nat.lt_succ_of_le (depth_le_fieldsDepth h)

mutual

/-- The second of two equal values is no less deep. -/
theorem depth_le_of_same : ∀ {v w : Value}, same v w = true → v.depth ≤ w.depth
  | arr vs, w, h => by
    cases w with
    | arr ws =>
      rw [same] at h
      rw [depth, depth]
      exact Nat.succ_le_succ (itemsDepth_le_of_sameItems h)
    | _ => simp [same, number?] at h
  | obj fs, w, h => by
    cases w with
    | obj gs =>
      rw [same, Bool.and_eq_true] at h
      rw [depth, depth]
      exact Nat.succ_le_succ (fieldsDepth_le_of_sameFields h.2)
    | _ => simp [same, number?] at h
  | null, _, _ => Nat.zero_le _
  | bool _, _, _ => Nat.zero_le _
  | int _, _, _ => Nat.zero_le _
  | float _, _, _ => Nat.zero_le _
  | str _, _, _ => Nat.zero_le _

theorem itemsDepth_le_of_sameItems : ∀ {vs ws : List Value}, sameItems vs ws = true →
    itemsDepth vs ≤ itemsDepth ws
  | [], _, _ => Nat.zero_le _
  | v :: vs, [], h => by cases h
  | v :: vs, w :: ws, h => by
    rw [sameItems, Bool.and_eq_true] at h
    have hv := depth_le_of_same h.1
    have hvs := itemsDepth_le_of_sameItems h.2
    rw [itemsDepth, itemsDepth]
    omega

theorem fieldsDepth_le_of_sameFields : ∀ {fs gs : List (String × Value)},
    sameFields fs gs = true → fieldsDepth fs ≤ fieldsDepth gs
  | [], _, _ => Nat.zero_le _
  | (k, v) :: fs, gs, h => by
    rw [sameFields, Bool.and_eq_true] at h
    have hfs := fieldsDepth_le_of_sameFields h.2
    rw [fieldsDepth]
    refine Nat.max_le.mpr ⟨?_, hfs⟩
    cases hw : gs.lookup k with
    | none => simp [hw] at h
    | some w =>
      have hv := depth_le_of_same (by simpa [hw] using h.1)
      exact Nat.le_trans hv (depth_le_fieldsDepth (mem_of_lookup_eq_some hw))

end

theorem sameNumber_trans (h : sameNumber l m = true) (h' : sameNumber m n = true) :
    sameNumber l n = true := by
  have not_nan : ∀ {x : Double} {a : Int}, x.equalInt a = true → x.isNaN = false :=
    fun h => (Double.equalInt_iff.mp h).1
  rcases l with a | x <;> rcases m with b | y <;> rcases n with c | z <;>
    simp only [sameNumber, decide_eq_true_eq, Bool.or_eq_true, Bool.and_eq_true] at h h' ⊢
  · exact h.trans h'
  · exact h ▸ h'
  · exact Double.eq_of_equalInt h h'
  · rcases h' with ⟨hy, -⟩ | h'
    · simp [not_nan h] at hy
    · exact Double.equalInt_of_equal h' h
  · exact h' ▸ h
  · exact Or.inr (Double.equal_of_equalInt h h')
  · rcases h with ⟨-, hy⟩ | h
    · simp [not_nan h'] at hy
    · exact Double.equalInt_of_equal (Double.equal_comm.mp h) h'
  · rcases h with ⟨hx, hy⟩ | h <;> rcases h' with ⟨hy', hz⟩ | h'
    · exact Or.inl ⟨hx, hz⟩
    · simp [(Double.equal_iff.mp h').1] at hy
    · simp [(Double.equal_iff.mp h).2.1] at hy'
    · exact Or.inr (Double.equal_trans h h')

/-- A number or truth value is the same as those of its size. -/
theorem same_iff_of_number (hv : v.number? = some m) :
    same v w = true ↔ ∃ n, w.number? = some n ∧ sameNumber m n = true := by
  cases v <;> cases w <;> simp_all [same, number?]

mutual

/-- If a value is the same as a second one, and that as a third, it is the same as the third. -/
theorem same_trans : ∀ {u v w : Value}, same u v = true → same v w = true → same u w = true
  | .arr us, v, w, h, h' => by
    cases v with
    | arr vs => cases w with
      | arr ws =>
        rw [same] at h h' ⊢
        exact sameItems_trans h h'
      | _ => simp [same, number?] at h'
    | _ => simp [same, number?] at h
  | .obj fs, v, w, h, h' => by
    cases v with
    | obj gs => cases w with
      | obj hs =>
        simp only [same, Bool.and_eq_true, decide_eq_true_eq] at h h' ⊢
        exact ⟨h.1.trans h'.1, sameFields_trans h.2 h'.2⟩
      | _ => simp [same, number?] at h'
    | _ => simp [same, number?] at h
  | .null, v, w, h, h' => by
    cases v with
    | null => exact h'
    | _ => simp [same, number?] at h
  | .str s, v, w, h, h' => by
    cases v with
    | str s' => rwa [show s = s' by simpa [same] using h]
    | _ => simp [same, number?] at h
  | .bool _, _, _, h, h' | .int _, _, _, h, h' | .float _, _, _, h, h' => by
    obtain ⟨n, hn, hmn⟩ := (same_iff_of_number rfl).mp h
    obtain ⟨n', hn', hnn'⟩ := (same_iff_of_number hn).mp h'
    exact (same_iff_of_number rfl).mpr ⟨n', hn', sameNumber_trans hmn hnn'⟩

theorem sameItems_trans : ∀ {us vs ws : List Value}, sameItems us vs = true →
    sameItems vs ws = true → sameItems us ws = true
  | [], [], _, _, h' => h'
  | [], _ :: _, _, h, _ => by cases h
  | _ :: _, [], _, h, _ => by cases h
  | _ :: _, _ :: _, [], _, h' => by cases h'
  | u :: us, v :: vs, w :: ws, h, h' => by
    rw [sameItems, Bool.and_eq_true] at h h' ⊢
    exact ⟨same_trans h.1 h'.1, sameItems_trans h.2 h'.2⟩

theorem sameFields_trans : ∀ {fs gs hs : List (String × Value)}, sameFields fs gs = true →
    sameFields gs hs = true → sameFields fs hs = true
  | [], _, _, _, _ => rfl
  | (k, v) :: fs, gs, hs, h, h' => by
    rw [sameFields_iff, List.forall_mem_cons, ← sameFields_iff] at h ⊢
    obtain ⟨⟨w, hw, hvw⟩, hfs⟩ := h
    obtain ⟨u, hu, hwu⟩ := sameFields_iff.mp h' _ (mem_of_lookup_eq_some hw)
    exact ⟨⟨u, hu, same_trans hvw hwu⟩, sameFields_trans hfs h'⟩

end

theorem sameNumber_comm (h : sameNumber m n = true) : sameNumber n m = true := by
  rcases m with a | x <;> rcases n with b | y
  · simpa [sameNumber, eq_comm] using h
  · exact h
  · exact h
  · simp only [sameNumber, Bool.or_eq_true, Bool.and_eq_true] at h ⊢
    exact h.imp And.symm Double.equal_comm.mp

/-- A key is the same as itself, be it no number. -/
theorem same_self_of_isKey (hv : v.isKey = true) : same v v = true := by
  cases v with
  | null => rfl
  | bool b => simp [same, number?, sameNumber]
  | int n => simp [same, number?, sameNumber]
  | str s => simp [same]
  | float x =>
    rw [same_iff_of_number rfl]
    refine ⟨_, rfl, ?_⟩
    cases hx : x.isNaN with
    | true => simp [sameNumber, hx]
    | false => simp [sameNumber, Double.equal_iff, hx]
  | arr vs => cases hv
  | obj fs => cases hv

theorem isKey_eq_of_same (h : same v w = true) : v.isKey = w.isKey := by
  cases v <;> cases w <;> simp_all [same, number?, isKey]

theorem same_symm_of_isKey (hv : v.isKey = true) (h : same v w = true) : same w v = true := by
  cases v with
  | null => cases w <;> simp_all [same, number?]
  | str s => cases w <;> simp_all [same, number?]
  | arr vs => cases hv
  | obj fs => cases hv
  | _ =>
    obtain ⟨n, hn, hsame⟩ := (same_iff_of_number rfl).mp h
    exact (same_iff_of_number hn).mpr ⟨_, rfl, sameNumber_comm hsame⟩

end VueWrap.Value
