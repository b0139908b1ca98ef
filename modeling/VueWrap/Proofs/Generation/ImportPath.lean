import Mathlib.Data.List.TakeWhile
import VueWrap.Generation
import VueWrap.Proofs.Path.Relative

/-! # What the index imports

The path under which the index imports a module leads, seen from the directory
of the index, to the file of the module without its extension.
-/

namespace VueWrap

namespace Naming

variable {head tail seg e : List Char}

theorem splitLast_append (hhead : head = [] ∨ ∃ h, head = h ++ ['/']) (htail : '/' ∉ tail) :
    splitLast (head ++ tail) = (head, tail) := by
  have hrev : (head ++ tail).reverse.takeWhile (· != '/') = tail.reverse := by
    rw [List.reverse_append, List.takeWhile_append_of_pos]
    · rcases hhead with rfl | ⟨h, rfl⟩ <;> simp
    · intro c hc
      have hne : c ≠ '/' := by
        rintro rfl
        exact htail (List.mem_reverse.mp hc)
      simpa using hne
  simp only [splitLast, hrev]
  simp

theorem beforeLastPoint_append (he : '.' ∉ e) : beforeLastPoint (seg ++ '.' :: e) = seg := by
  have hdrop : (seg ++ '.' :: e).reverse.dropWhile (· != '.') = '.' :: seg.reverse := by
    rw [List.reverse_append, List.reverse_cons, List.append_assoc, List.dropWhile_append_of_pos]
    · simp
    · intro c hc
      have hne : c ≠ '.' := by
        rintro rfl
        exact he (List.mem_reverse.mp hc)
      simpa using hne
  simp only [beforeLastPoint, hdrop]
  simp

theorem slash_not_mem_extension (he : ∀ c ∈ e, c ≠ '.' ∧ c ≠ '/') : '/' ∉ '.' :: e := by
  intro h
  rcases List.mem_cons.mp h with h | h
  · exact absurd h (by decide)
  · exact (he _ h).2 rfl

/-- An extension goes where something else than points stands before it. -/
theorem dropExtension_append (hhead : head = [] ∨ ∃ h, head = h ++ ['/']) (hseg : '/' ∉ seg)
    (hpoint : ∃ c ∈ seg, c ≠ '.') (he : ∀ c ∈ e, c ≠ '.' ∧ c ≠ '/') :
    dropExtension (head ++ (seg ++ '.' :: e)) = head ++ seg := by
  have htail : '/' ∉ seg ++ '.' :: e := by
    rw [List.mem_append, not_or]
    exact ⟨hseg, slash_not_mem_extension he⟩
  have hcontains : ((seg ++ '.' :: e).dropWhile (· == '.')).contains '.' = true := by
    obtain ⟨c, hc, hne⟩ := hpoint
    have hd : seg.dropWhile (· == '.') ≠ [] := by
      intro hnil
      exact hne (by simpa using List.dropWhile_eq_nil_iff.mp hnil c hc)
    rw [List.dropWhile_append, if_neg (by simpa using hd)]
    simp
  simp only [dropExtension, splitLast_append hhead htail, hcontains, if_true]
  rw [beforeLastPoint_append fun h => (he _ h).1 rfl]

end Naming

namespace Generation

variable {here : List String} {cwd index dir stem ext file target : String} {e last : List Char}

theorem importPath_of_ne_empty (here : List String) (index : String) (h : file ≠ "") :
    importPath here (.str index) (.str file) = .ok ("./" ++ Naming.withoutExtension
      (Path.between here (Path.directory index) file)) := by
  have hfile : Value.isEmpty (.str file) = false := by simpa [Value.isEmpty] using h
  have hstart := Path.between_congr (Path.resolve_start here (Path.directory index)) file
  simp only [importPath, asPath, hfile, ← hstart]
  rfl

theorem prefix_of_importPath {index file : Value} (h : importPath here index file = .ok target) :
    "./".toList <+: target.toList := by
  unfold importPath at h
  cases index with
  | str index =>
    cases hf : file.isEmpty with
    | true =>
      rw [hf] at h
      cases h
    | false =>
      rw [hf] at h
      cases file with
      | str file =>
        obtain rfl := Except.ok.inj h
        rw [String.toList_append]
        exact List.prefix_append _ _
      | _ => cases h
  | _ => cases h

theorem withoutExtension_intercalate {way : List String} (hseg : '/' ∉ last)
    (hpoint : ∃ c ∈ last, c ≠ '.') (he : ∀ c ∈ e, c ≠ '.' ∧ c ≠ '/') :
    Naming.withoutExtension ("/".intercalate (way ++ [String.ofList (last ++ '.' :: e)])) =
      "/".intercalate (way ++ [String.ofList last]) := by
  obtain ⟨head, hhead, hlist⟩ := Path.exists_toList_intercalate_append way
  apply String.toList_injective
  rw [Naming.withoutExtension, String.toList_ofList, hlist, hlist, String.toList_ofList,
    String.toList_ofList]
  exact Naming.dropExtension_append hhead hseg hpoint he

/-- The index imports a module under a path that begins with a point and a slash and leads, from
the directory of the index, to the file of the module without its extension. -/
theorem importPath_leads_to_module
    (hhere : here = Path.resolve [] cwd) (hfile : file = Path.join dir (stem ++ ext)) :
    (∀ target, importPath here (.str index) (.str file) = .ok target →
      "./".toList <+: target.toList) ∧
    ((∃ e, ext.toList = '.' :: e ∧ ∀ c ∈ e, c ≠ '.' ∧ c ≠ '/') →
      (∃ ls last, Text.splitAt '/' stem.toList = ls ++ [last] ∧ ∃ c ∈ last, c ≠ '.') →
      ¬ Path.resolve here file <+: Path.resolve here (Path.directory index) →
      ∃ target, importPath here (.str index) (.str file) = .ok target ∧
        ∃ front last,
          Path.resolve here (Path.join (Path.directory index) target) = front ++ [last] ∧
          Path.resolve here file = front ++ [last ++ ext]) := by
  refine ⟨fun _ => prefix_of_importPath, ?_⟩
  rintro ⟨e, hext, he⟩ ⟨ls, last, hsplit, hpoint⟩ habove
  have hslash : '/' ∉ last := by
    apply Text.not_mem_of_mem_splitAt
    rw [hsplit]
    exact List.mem_append_right ls List.mem_cons_self
  have hsplit' : Text.splitAt '/' (stem ++ ext).toList = ls ++ [last ++ '.' :: e] := by
    rw [String.toList_append, hext]
    exact Text.splitAt_append_of_not_mem (Naming.slash_not_mem_extension he) hsplit
  have hname := Path.isName_ofList hpoint hslash
  have hmodule : Path.IsName (String.ofList (last ++ '.' :: e)) := by
    obtain ⟨c, hc, hne⟩ := hpoint
    refine Path.isName_ofList ⟨c, List.mem_append_left _ hc, hne⟩ ?_
    rw [List.mem_append, not_or]
    exact ⟨hslash, Naming.slash_not_mem_extension he⟩
  have hplaces : ∀ s ∈ here, Path.IsName s := by
    rw [hhere]
    exact fun _ => Path.isName_of_mem_resolve_nil
  obtain ⟨front, hfront⟩ := Path.exists_resolve_eq_append here hsplit' hmodule dir
  rw [← hfile] at hfront
  obtain ⟨way, hsegments, hbetween, hdir⟩ := Path.exists_between_eq hplaces hfront habove
  have hnonempty : file ≠ "" := by
    rw [hfile]
    apply Path.join_ne_empty
    intro hnil
    rw [(String.append_eq_empty_iff.mp hnil).2] at hext
    exact List.cons_ne_nil _ _ hext.symm
  refine ⟨_, importPath_of_ne_empty here index hnonempty, front, String.ofList last, ?_, ?_⟩
  · rw [hbetween, withoutExtension_intercalate hslash hpoint he, Path.resolve_join_way,
      List.foldl_append, hdir, List.foldl_cons, List.foldl_nil, Path.step, if_neg hname.ne_up,
      List.reverse_cons, List.reverse_reverse]
    intro s hs
    rcases List.mem_append.mp hs with hs | hs
    · exact hsegments s hs
    · rw [List.mem_singleton.mp hs]
      exact hname.toIsSegment
  · have hlast : String.ofList (last ++ '.' :: e) = String.ofList last ++ ext := by
      apply String.toList_injective
      simp [hext]
    rw [hfront, hlast]

/-- A module with points in its name, reached over steps back on both sides. -/
theorem importPath_leads_to_hidden_module :
    ∃ target, importPath ["proj", "app"] (.str "../lib/./index.ts")
        (.str "src//x.y/../.a/.b-c.ts") = .ok target ∧
      ∃ front last,
        Path.resolve ["proj", "app"] (Path.join (Path.directory "../lib/./index.ts") target) =
          front ++ [last] ∧
        Path.resolve ["proj", "app"] "src//x.y/../.a/.b-c.ts" = front ++ [last ++ ".ts"] := by
  have h := @importPath_leads_to_module ["proj", "app"] "/proj//app" "../lib/./index.ts"
    "src//x.y/../.a" ".b-c" ".ts" "src//x.y/../.a/.b-c.ts" (by decide) (by decide)
  apply h.2
  · exact ⟨['t', 's'], by decide, by simp⟩
  · exact ⟨[], ['.', 'b', '-', 'c'], by decide, 'b', by decide, by decide⟩
  · decide

end Generation

end VueWrap
