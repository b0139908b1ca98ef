import VueWrap.Mapping
import VueWrap.Proofs.Resolver.Spelling

/-! # Names that are given more than once

Children and definitions are kept by name. A name that comes up again keeps its first
place and takes what it is given last, so the names stand in the order in which they are
first met, each once, and each with the last item of its name.
-/

namespace VueWrap

namespace Assoc

variable {α β : Type} {es more : List (Value × β)} {key : α → Value} {val : α → β} {as : List α}

/-- Setting a key adds it at the end of the keys, unless it is there. -/
theorem keys_put (es : List (Value × β)) (k : Value) (v : β) :
    (put Value.same es k v).map (·.1) = Resolver.addToken (es.map (·.1)) k := by
  induction es with
  | nil => rfl
  | cons e es ih =>
    rw [put, Resolver.addToken] at *
    by_cases he : e.1.same k = true
    · simp [he]
    · rw [if_neg he, List.map_cons, ih]
      split <;> rename_i hany <;> simp [he, hany]

theorem keys_update (es more : List (Value × β)) :
    (update Value.same es more).map (·.1) =
      Resolver.merge (es.map (·.1)) (more.map (·.1)) := by
  induction more generalizing es with
  | nil => rfl
  | cons e more ih =>
    show (update Value.same (put Value.same es e.1 e.2) more).map (·.1) = _
    rw [ih, keys_put]
    rfl

theorem apart_of_isKey {k k' : Value} (hk : k.isKey = true) (h : k.same k' = false) :
    Apart Value.same k k' where
  not_same := by simp [h]
  not_both := by
    intro a ha ha'
    have hka : k.same a = true :=
      Value.same_symm_of_isKey ((Value.isKey_eq_of_same ha).trans hk) ha
    simp [Value.same_trans hka ha'] at h

/-- The entries have the keys of some items in the order in which they first come up, and under each
key the value of the last item that has it. -/
structure KeepsLast (key : α → Value) (val : α → β) (as : List α) (entries : List (Value × β)) :
    Prop where
  keys : entries.map (·.1) = (as.map key).eraseDupsBy fun later earlier => earlier.same later
  last : ∀ before a after, as = before ++ a :: after →
    (∀ b ∈ after, (key b).same (key a) = false) →
      get? Value.same entries (key a) = some (val a)

theorem keepsLast_ofList (hkeys : ∀ a ∈ as, (key a).isKey = true) :
    KeepsLast key val as (ofList Value.same (as.map fun a => (key a, val a))) where
  keys := by
    have hmap : (as.map fun a => (key a, val a)).map (·.1) = as.map key := by simp
    rw [ofList, keys_update, hmap]
    exact Resolver.merge_nil _
  last := by
    rintro before a after rfl hafter
    have ha : (key a).isKey = true := hkeys a (by simp)
    rw [ofList, List.map_append, List.map_cons]
    refine get?_update_last (Value.same_self_of_isKey ha) ?_ _ _ _
    intro e he
    obtain ⟨b, hb, rfl⟩ := List.mem_map.mp he
    exact apart_of_isKey (hkeys b (by simp [hb])) (hafter b hb)

end Assoc

namespace Registry

variable {ds : List TypeDecl}

theorem entries_build (ds : List TypeDecl) :
    (build ds).entries = Assoc.ofList Value.same (ds.map fun d => (d.name, d)) := by
  have hfoldl : ∀ g : Registry, (ds.foldl insert g).entries =
      Assoc.update Value.same g.entries (ds.map fun d => (d.name, d)) := by
    induction ds with
    | nil => exact fun _ => rfl
    | cons d ds ih => exact fun g => ih (g.insert d)
  exact hfoldl empty

theorem ofList_of_isKey (hds : ∀ d ∈ ds, d.name.isKey = true) : ofList ds = .ok (build ds) := by
  rw [ofList, if_pos (List.all_eq_true.mpr hds)]
  rfl

end Registry

namespace Mapping

variable {cs : List ChildRef}

theorem children_of_isKey (hne : cs ≠ []) (hcs : ∀ c ∈ cs, c.component.isKey = true) :
    children cs =
      .ok (some (Assoc.ofList Value.same (cs.map fun c => (c.component, child c)))) := by
  rw [children, if_neg (by simpa using hne), if_pos (List.all_eq_true.mpr hcs)]

theorem children_eq_none_iff : children cs = .ok none ↔ cs = [] := by
  constructor
  · intro h
    rw [children] at h
    split at h
    · rename_i hempty
      exact List.isEmpty_iff.mp hempty
    · split at h <;> cases h
  · rintro rfl
    rfl

/-- References, of which an absent list has none, become children unless there are none, and
definitions become a registry. Both have every name once, at the place where it is first met, with
what the last item of the name says: the placement of a child, or the definition. -/
theorem last_counts_in_first_place (refs : Option (List ChildRef)) (ds : List TypeDecl)
    (hrefs : ∀ c ∈ refs.getD [], c.component.isKey = true)
    (hds : ∀ d ∈ ds, d.name.isKey = true) :
    (children (refs.getD []) = .ok none ↔ refs = none ∨ refs = some []) ∧
      (refs.getD [] ≠ [] → ∃ entries, children (refs.getD []) = .ok (some entries) ∧
        Assoc.KeepsLast (·.component) (fun c => ⟨c.isCollectionItem.holds, c.option⟩) (refs.getD [])
          entries) ∧
      ∃ g, Registry.ofList ds = .ok g ∧
        g.names = (ds.map (·.name)).eraseDupsBy (fun later earlier => earlier.same later) ∧
        (∀ before d after, ds = before ++ d :: after →
          (∀ d' ∈ after, d'.name.same d.name = false) → g.get? d.name = some d) ∧
        g.size =
          ((ds.map (·.name)).eraseDupsBy fun later earlier => earlier.same later).length := by
  refine ⟨?_, ?_, Registry.build ds, Registry.ofList_of_isKey hds, ?_⟩
  · rw [children_eq_none_iff]
    cases refs <;> simp
  · exact fun hne => ⟨_, children_of_isKey hne hrefs, Assoc.keepsLast_ofList hrefs⟩
  · have hlast : Assoc.KeepsLast (·.name) (fun d => d) ds (Registry.build ds).entries := by
      rw [Registry.entries_build]
      exact Assoc.keepsLast_ofList hds
    refine ⟨hlast.keys, hlast.last, ?_⟩
    rw [Registry.size, ← hlast.keys, List.length_map]

def itemsAndTabs : List ChildRef :=
  [⟨.str "DxItem", .str "items", .bool false⟩, ⟨.str "DxTab", .str "tabs", .null⟩,
    ⟨.str "DxItem", .str "entries", .int 1⟩, ⟨.str "DxTab", .str "pages", .str ""⟩]

def modeDecl : TypeDecl := ⟨.str "Mode", [Resolver.typeNamed "string"], []⟩

/-- Modes are defined before sizes and once more after them. -/
def modesAndSizes : List TypeDecl := [⟨.str "Mode", [], []⟩, ⟨.str "Size", [], []⟩, modeDecl]

/-- Items are placed as they are last, yet before tabs, and modes mean what they do last, yet stand
before sizes. -/
theorem last_counts_itemsAndTabs :
    (∀ c ∈ itemsAndTabs, c.component.isKey = true) ∧
      (∀ d ∈ modesAndSizes, d.name.isKey = true) ∧
      (∃ entries, children itemsAndTabs = .ok (some entries) ∧
        entries.map (·.1) = [.str "DxItem", .str "DxTab"] ∧
        Assoc.get? Value.same entries (.str "DxItem") = some ⟨true, .str "entries"⟩) ∧
      ∃ g, Registry.ofList modesAndSizes = .ok g ∧ g.names = [.str "Mode", .str "Size"] ∧
        g.get? (.str "Mode") = some modeDecl ∧ g.size = 2 := by
  have hrefs : ∀ c ∈ itemsAndTabs, c.component.isKey = true := by simp [itemsAndTabs, Value.isKey]
  have hds : ∀ d ∈ modesAndSizes, d.name.isKey = true := by
    simp [modesAndSizes, modeDecl, Value.isKey]
  obtain ⟨-, hchildren, g, hg, hnames, hget, hsize⟩ :=
    last_counts_in_first_place (some itemsAndTabs) modesAndSizes hrefs hds
  obtain ⟨entries, hentries, hkeys, hlast⟩ := hchildren (List.cons_ne_nil _ _)
  have hitems := hlast (itemsAndTabs.take 2) ⟨.str "DxItem", .str "entries", .int 1⟩
    (itemsAndTabs.drop 3) rfl (by simp [itemsAndTabs, Value.same])
  have hdistinct : ((modesAndSizes.map (·.name)).eraseDupsBy fun later earlier =>
      earlier.same later) = [.str "Mode", .str "Size"] := by
    simp [modesAndSizes, modeDecl, List.eraseDupsBy, List.eraseDupsBy.loop, Value.same]
  refine ⟨hrefs, hds, ⟨entries, hentries, ?_, hitems⟩, g, hg, ?_, ?_, ?_⟩
  · rw [hkeys]
    simp [itemsAndTabs, List.eraseDupsBy, List.eraseDupsBy.loop, Value.same]
  · rw [hnames, hdistinct]
  · exact hget (modesAndSizes.take 2) modeDecl [] rfl (by simp)
  · rw [hsize, hdistinct]
    rfl

end Mapping

end VueWrap
