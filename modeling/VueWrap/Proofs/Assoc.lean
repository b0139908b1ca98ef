import Mathlib.Data.List.Induction
import VueWrap.Assoc

/-! # Keys and values of associations

What is found in an association has been put there, and a key that is put takes
no other key's value away. Associations whose keys are all distinct are put
together by appending them; putting one into another a second time changes
nothing.
-/

namespace VueWrap.Assoc

variable {α β : Type} {same : α → α → Bool} {es more : List (α × β)} {k k' : α} {v : β} {e : α × β}

theorem sameText_iff (s t : String) : sameText s t = true ↔ s = t := by
  simp [sameText]

theorem exists_mem_of_get? (h : get? same es k = some v) : ∃ e ∈ es, e.2 = v := by
  induction es with
  | nil => cases h
  | cons e es ih =>
    rw [get?] at h
    split at h
    · exact ⟨e, List.mem_cons_self, Option.some.inj h⟩
    · obtain ⟨e', he', hv⟩ := ih h
      exact ⟨e', List.mem_cons_of_mem e he', hv⟩

theorem mem_put (h : e ∈ put same es k v) :
    e ∈ es ∨ (e.1 = k ∨ same e.1 k = true) ∧ e.2 = v := by
  induction es with
  | nil =>
    obtain rfl := List.mem_singleton.mp h
    exact Or.inr ⟨Or.inl rfl, rfl⟩
  | cons e' es ih =>
    rw [put] at h
    split at h
    · rename_i hsame
      rcases List.mem_cons.mp h with rfl | h
      · exact Or.inr ⟨Or.inr hsame, rfl⟩
      · exact Or.inl (List.mem_cons_of_mem e' h)
    · rcases List.mem_cons.mp h with rfl | h
      · exact Or.inl List.mem_cons_self
      · exact (ih h).imp_left (List.mem_cons_of_mem e')

theorem mem_update (h : e ∈ update same es more) :
    e ∈ es ∨ ∃ f ∈ more, (e.1 = f.1 ∨ same e.1 f.1 = true) ∧ e.2 = f.2 := by
  induction more generalizing es with
  | nil => exact Or.inl h
  | cons f more ih =>
    rcases ih h with h | ⟨f', hf', h⟩
    · exact (mem_put h).imp_right fun h => ⟨f, List.mem_cons_self, h⟩
    · exact Or.inr ⟨f', List.mem_cons_of_mem f hf', h⟩

theorem put_map {γ : Type} {same' : γ → γ → Bool} {f : α → γ}
    (hf : ∀ a b, same' (f a) (f b) = same a b) (es : List (α × β)) (k : α) (v : β) :
    put same' (es.map fun e => (f e.1, e.2)) (f k) v =
      (put same es k v).map fun e => (f e.1, e.2) := by
  induction es with
  | nil => rfl
  | cons e es ih =>
    simp only [List.map_cons, put, hf]
    split
    · rfl
    · rw [ih, List.map_cons]

/-- Keys may be written in another way that tells them apart alike. -/
theorem update_map {γ : Type} {same' : γ → γ → Bool} {f : α → γ}
    (hf : ∀ a b, same' (f a) (f b) = same a b) (es more : List (α × β)) :
    update same' (es.map fun e => (f e.1, e.2)) (more.map fun e => (f e.1, e.2)) =
      (update same es more).map fun e => (f e.1, e.2) := by
  induction more generalizing es with
  | nil => rfl
  | cons e more ih =>
    show update same' (put same' _ (f e.1) e.2) _ = (update same (put same es e.1 e.2) more).map _
    rw [put_map hf, ih]

theorem put_ne_nil (es : List (α × β)) (k : α) (v : β) : put same es k v ≠ [] := by
  cases es with
  | nil => exact List.cons_ne_nil _ _
  | cons e es =>
    rw [put]
    split <;> exact List.cons_ne_nil _ _

theorem update_ne_nil (h : es ≠ []) : update same es more ≠ [] := by
  induction more generalizing es with
  | nil => exact h
  | cons e more ih => exact ih (put_ne_nil es e.1 e.2)

theorem ofList_ne_nil (h : es ≠ []) : ofList same es ≠ [] := by
  cases es with
  | nil => exact absurd rfl h
  | cons e es =>
    show update same (put same [] e.1 e.2) es ≠ []
    exact update_ne_nil (put_ne_nil [] e.1 e.2)

theorem put_eq_self (h : get? same es k = some v) : put same es k v = es := by
  induction es with
  | nil => cases h
  | cons e es ih =>
    rw [get?] at h
    rw [put]
    split at h
    · rename_i hsame
      rw [if_pos hsame, ← Option.some.inj h]
    · rename_i hsame
      rw [if_neg hsame, ih h]

theorem update_append_singleton (es more : List (α × β)) (e : α × β) :
    update same es (more ++ [e]) = put same (update same es more) e.1 e.2 :=
  List.foldl_append

theorem get?_sameText (fs : List (String × β)) (k : String) : get? sameText fs k = fs.lookup k := by
  induction fs with
  | nil => rfl
  | cons f fs ih =>
    rw [get?, List.lookup_cons, ih]
    by_cases h : k = f.1
    · simp [h, sameText]
    · simp [beq_false_of_ne h, Ne.symm h, sameText]

/-- The keys are told apart, and no key is taken for both of them. -/
structure Apart (same : α → α → Bool) (k k' : α) : Prop where
  not_same : ¬ same k k' = true
  not_both : ∀ a, same a k = true → ¬ same a k' = true

theorem get?_put_of_apart (h : Apart same k k') (es : List (α × β)) (v : β) :
    get? same (put same es k v) k' = get? same es k' := by
  induction es with
  | nil => simp [put, get?, h.not_same]
  | cons e es ih =>
    obtain ⟨a, b⟩ := e
    by_cases ha : same a k = true
    · simp [put, get?, ha, h.not_both a ha]
    · by_cases ha' : same a k' = true
      · simp [put, get?, ha, ha']
      · simpa [put, get?, ha, ha'] using ih

theorem get?_update_of_apart (h : ∀ e ∈ more, Apart same e.1 k) :
    get? same (update same es more) k = get? same es k := by
  induction more generalizing es with
  | nil => rfl
  | cons e more ih =>
    obtain ⟨he, hmore⟩ := List.forall_mem_cons.mp h
    show get? same (update same (put same es e.1 e.2) more) k = _
    rw [ih hmore, get?_put_of_apart he]

/-- Of several values that a key is set to, the last one is found. -/
theorem get?_update_last (hself : same k k = true) (h : ∀ e ∈ more, Apart same e.1 k)
    (es before : List (α × β)) (v : β) :
    get? same (update same es (before ++ (k, v) :: more)) k = some v := by
  have hsplit : update same es (before ++ (k, v) :: more) =
      update same (put same (update same es before) k v) more := List.foldl_append
  rw [hsplit, get?_update_of_apart h, get?_put_self hself]

section Keys

variable (hs : ∀ a b, same a b = true ↔ a = b)
include hs

theorem apart_of_ne (hne : k' ≠ k) : Apart same k k' where
  not_same := fun h => hne ((hs _ _).mp h).symm
  not_both := fun _ h h' => hne (((hs _ _).mp h').symm.trans ((hs _ _).mp h))

theorem get?_put_of_ne (hne : k' ≠ k) (es : List (α × β)) (v : β) :
    get? same (put same es k v) k' = get? same es k' :=
  get?_put_of_apart (apart_of_ne hs hne) es v

theorem get?_eq_none (h : k ∉ es.map (·.1)) : get? same es k = none := by
  induction es with
  | nil => rfl
  | cons e es ih =>
    rw [List.map_cons, List.mem_cons, not_or] at h
    rw [get?, if_neg (fun hsame => h.1 ((hs _ _).mp hsame).symm), ih h.2]

/-- What is set later is found first. -/
theorem get?_update (hkeys : (more.map (·.1)).Nodup) :
    get? same (update same es more) k = (get? same more k).or (get? same es k) := by
  induction more generalizing es with
  | nil => rfl
  | cons e more ih =>
    rw [List.map_cons, List.nodup_cons] at hkeys
    show get? same (update same (put same es e.1 e.2) more) k = _
    rw [ih hkeys.2, get?]
    split
    · rename_i hsame
      obtain rfl := (hs _ _).mp hsame
      rw [get?_eq_none hs hkeys.1, get?_put_self ((hs _ _).mpr rfl)]
      rfl
    · rename_i hsame
      rw [get?_put_of_ne hs fun hk => hsame ((hs _ _).mpr hk.symm)]

theorem eq_or_mem_of_mem_put (h : e ∈ put same es k v) : e ∈ es ∨ e = (k, v) := by
  refine (mem_put h).imp_right fun ⟨hkey, hv⟩ => Prod.ext ?_ hv
  exact hkey.elim id (hs _ _).mp

theorem mem_update_of_keys (h : e ∈ update same es more) : e ∈ es ∨ e ∈ more := by
  refine (mem_update h).imp_right ?_
  rintro ⟨f, hf, hkey, hv⟩
  rwa [show e = f from Prod.ext (hkey.elim id (hs _ _).mp) hv]

theorem mem_put_self (es : List (α × β)) (k : α) (v : β) : (k, v) ∈ put same es k v := by
  induction es with
  | nil => exact List.mem_singleton_self _
  | cons e es ih =>
    rw [put]
    split
    · rename_i hsame
      rw [(hs _ _).mp hsame]
      exact List.mem_cons_self
    · exact List.mem_cons_of_mem _ ih

theorem mem_put_of_ne (he : e ∈ es) (hne : e.1 ≠ k) : e ∈ put same es k v := by
  induction es with
  | nil => cases he
  | cons e' es ih =>
    rw [put]
    rcases List.mem_cons.mp he with rfl | he
    · rw [if_neg (mt (hs _ _).mp hne)]
      exact List.mem_cons_self
    · split
      · exact List.mem_cons_of_mem _ he
      · exact List.mem_cons_of_mem _ (ih he)

theorem mem_update_of_not_mem (he : e ∈ es) (hne : e.1 ∉ more.map (·.1)) :
    e ∈ update same es more := by
  induction more generalizing es with
  | nil => exact he
  | cons f more ih =>
    rw [List.map_cons, List.mem_cons, not_or] at hne
    exact ih (mem_put_of_ne hs he hne.1) hne.2

/-- What is put last under its key is there. -/
theorem mem_update_of_mem (hkeys : (more.map (·.1)).Nodup) (he : e ∈ more) :
    e ∈ update same es more := by
  induction more generalizing es with
  | nil => cases he
  | cons f more ih =>
    rw [List.map_cons, List.nodup_cons] at hkeys
    rcases List.mem_cons.mp he with rfl | he
    · show e ∈ update same (put same es e.1 e.2) more
      exact mem_update_of_not_mem hs (mem_put_self hs es e.1 e.2) hkeys.1
    · exact ih hkeys.2 he

theorem put_eq_append (h : k ∉ es.map (·.1)) : put same es k v = es ++ [(k, v)] := by
  induction es with
  | nil => rfl
  | cons e es ih =>
    rw [List.map_cons, List.mem_cons, not_or] at h
    rw [put, if_neg (fun hsame => h.1 ((hs _ _).mp hsame).symm), ih h.2]
    rfl

theorem update_eq_append (h : ((es ++ more).map (·.1)).Nodup) :
    update same es more = es ++ more := by
  induction more generalizing es with
  | nil => exact (List.append_nil es).symm
  | cons e more ih =>
    have hsplit : es ++ e :: more = (es ++ [e]) ++ more := by simp
    have he : e.1 ∉ es.map (·.1) := by
      rw [List.map_append, List.nodup_append] at h
      exact fun hmem => h.2.2 e.1 hmem e.1 List.mem_cons_self rfl
    show update same (put same es e.1 e.2) more = _
    rw [put_eq_append hs he, hsplit]
    rw [hsplit] at h
    exact ih h

theorem ofList_eq_self (h : (es.map (·.1)).Nodup) : ofList same es = es :=
  @update_eq_append _ _ _ [] es hs h

theorem nodup_put (h : (es.map (·.1)).Nodup) : ((put same es k v).map (·.1)).Nodup := by
  induction es with
  | nil => exact List.nodup_cons.mpr ⟨List.not_mem_nil, List.nodup_nil⟩
  | cons e es ih =>
    rw [put]
    split
    · exact h
    · rename_i hsame
      rw [List.map_cons, List.nodup_cons] at h ⊢
      refine ⟨fun hmem => ?_, ih h.2⟩
      obtain ⟨e', he', hkey⟩ := List.mem_map.mp hmem
      rcases eq_or_mem_of_mem_put hs he' with he' | rfl
      · exact h.1 (List.mem_map.mpr ⟨e', he', hkey⟩)
      · exact hsame ((hs _ _).mpr hkey.symm)

theorem nodup_update (h : (es.map (·.1)).Nodup) : ((update same es more).map (·.1)).Nodup := by
  induction more generalizing es with
  | nil => exact h
  | cons e more ih => exact ih (nodup_put hs h)

theorem mem_keys_put : k' ∈ (put same es k v).map (·.1) ↔ k' = k ∨ k' ∈ es.map (·.1) := by
  induction es with
  | nil => exact List.mem_cons
  | cons e es ih =>
    rw [put]
    split
    · rename_i hsame
      rw [← (hs _ _).mp hsame]
      simp
    · rw [List.map_cons, List.mem_cons, ih, List.map_cons, List.mem_cons]
      exact or_left_comm

theorem mem_keys_update :
    k ∈ (update same es more).map (·.1) ↔ k ∈ es.map (·.1) ∨ k ∈ more.map (·.1) := by
  induction more generalizing es with
  | nil => exact (or_iff_left List.not_mem_nil).symm
  | cons e more ih =>
    show k ∈ (update same (put same es e.1 e.2) more).map (·.1) ↔ _
    rw [ih, mem_keys_put hs, List.map_cons, List.mem_cons, or_assoc, or_left_comm]

theorem put_put (es : List (α × β)) (k : α) (v v' : β) :
    put same (put same es k v) k v' = put same es k v' := by
  induction es with
  | nil => exact if_pos ((hs k k).mpr rfl)
  | cons e es ih =>
    by_cases he : same e.1 k = true
    · simp only [put, if_pos he]
    · simp only [put, if_neg he, ih]

/-- Two keys may be set in either order, unless both are new. -/
theorem put_comm (hne : k ≠ k') (h : k ∈ es.map (·.1) ∨ k' ∈ es.map (·.1)) (v v' : β) :
    put same (put same es k v) k' v' = put same (put same es k' v') k v := by
  induction es with
  | nil => simp at h
  | cons e es ih =>
    by_cases hk : same e.1 k = true
    · have hk' : ¬ same e.1 k' = true := fun h => hne (((hs _ _).mp hk).symm.trans ((hs _ _).mp h))
      simp only [put, if_pos hk, if_neg hk']
    · by_cases hk' : same e.1 k' = true
      · simp only [put, if_neg hk, if_pos hk']
      · have hrest : k ∈ es.map (·.1) ∨ k' ∈ es.map (·.1) := by
          rw [hs] at hk hk'
          simpa [Ne.symm hk, Ne.symm hk'] using h
        simp only [put, if_neg hk, if_neg hk', ih hrest]

/-- What a key is set to does not count if it is set once more later on. -/
theorem put_update_put (h : k ∈ es.map (·.1) ∨ ∀ e ∈ more, e.1 ∈ es.map (·.1)) (v v' : β) :
    put same (update same (put same es k v) more) k v' = put same (update same es more) k v' := by
  induction more generalizing es with
  | nil => exact put_put hs es k v v'
  | cons e more ih =>
    show put same (update same (put same (put same es k v) e.1 e.2) more) k v' =
      put same (update same (put same es e.1 e.2) more) k v'
    by_cases hk : k = e.1
    · rw [hk, put_put hs]
    · rw [List.forall_mem_cons] at h
      rw [put_comm hs hk (h.imp_right And.left)]
      refine ih (h.imp (fun h => ?_) fun h f hf => ?_)
      · exact (mem_keys_put hs).mpr (Or.inr h)
      · exact (mem_keys_put hs).mpr (Or.inr (h.2 f hf))

/-- Setting the same keys again changes nothing. -/
theorem update_update (es more : List (α × β)) :
    update same (update same es more) more = update same es more := by
  induction more using List.reverseRecOn with
  | nil => rfl
  | append_singleton more e ih =>
    have hkeys : ∀ f ∈ more, f.1 ∈ (update same es more).map (·.1) := fun f hf =>
      (mem_keys_update hs).mpr (Or.inr (List.mem_map_of_mem hf))
    rw [update_append_singleton, update_append_singleton, put_update_put hs (Or.inr hkeys), ih]

end Keys

end VueWrap.Assoc
