import VueWrap.Proofs.Json.ReadBack
import VueWrap.Proofs.Text.Apart

/-! # Values told apart by their text

On one line, two values without floats have the same text only if they are the same
value, also in front of other text. An integer may have any number of digits here, and
an object a key more than once: nothing of this is lost in a text.
-/

namespace VueWrap

/-- No number of the value is a float. -/
inductive Value.FloatFree : Value → Prop
  | null : FloatFree .null
  | bool (b : Bool) : FloatFree (.bool b)
  | int (n : Int) : FloatFree (.int n)
  | str (s : String) : FloatFree (.str s)
  | arr {vs : List Value} (h : ∀ v ∈ vs, FloatFree v) : FloatFree (.arr vs)
  | obj {fs : List (String × Value)} (h : ∀ f ∈ fs, FloatFree f.2) : FloatFree (.obj fs)

namespace Json

open Text (SetsApart inBrackets)

variable {v w : Value} {vs : List Value} {fs : List (String × Value)} {rest rest' : List Char}

theorem setsApart_printString (s : String) :
    SetsApart printString (fun _ => True) (fun _ => True) s := by
  intro t rest rest' _ _ _ h
  -- One reader with enough fuel for both texts.
  have hs := @readString_printString (max (printString s).length (printString t).length) s rest
    (Nat.le_succ_of_le (Nat.le_max_left _ _))
  have ht := @readString_printString (max (printString s).length (printString t).length) t rest'
    (Nat.le_succ_of_le (Nat.le_max_right _ _))
  rw [h, ht] at hs
  cases hs
  exact ⟨rfl, rfl⟩

theorem toDigits_inj {m n : Nat} (h : Nat.toDigits 10 m = Nat.toDigits 10 n) : m = n := by
  rw [← decimal_toDigits m, ← decimal_toDigits n, h]

theorem endsRun_of_endsNumber (h : EndsNumber rest) : Text.EndsRun Char.isDigit rest :=
  fun c hc => (h c hc).1

theorem setsApart_printInt (n : Int) : SetsApart printInt (fun _ => True) EndsNumber n := by
  intro m rest rest' _ hrest hrest' h
  have hsign := congrArg minusSign h
  rw [minusSign_printInt, minusSign_printInt, Prod.mk.injEq, decide_eq_decide] at hsign
  obtain ⟨hdigits, hrests⟩ := Text.append_inj_of_endsRun
    (fun _ => @isDigit_of_mem_toDigits _ n.natAbs) (fun _ => @isDigit_of_mem_toDigits _ m.natAbs)
    (endsRun_of_endsNumber hrest) (endsRun_of_endsNumber hrest') hsign.2
  have habs := toDigits_inj hdigits
  exact ⟨by omega, hrests⟩

/-- What the text of a value begins with; a digit stands for all integers. -/
def sign : Value → Char
  | .null => 'n'
  | .bool true => 't'
  | .bool false => 'f'
  | .int _ => '0'
  | .str _ => '"'
  | .arr _ => '['
  | .obj _ => '{'
  | .float _ => 'x'

def signOf (c : Char) : Char := if c.isDigit || c == '-' then '0' else c

theorem exists_printAt_sign (depth : Nat) (hv : v.FloatFree) :
    ∃ c cs, printAt .inline depth v = c :: cs ∧ signOf c = sign v := by
  cases hv with
  | null => exact ⟨_, _, rfl, rfl⟩
  | bool b => cases b <;> exact ⟨_, _, rfl, rfl⟩
  | int n =>
    obtain ⟨d, ds, hd, h | h⟩ := exists_printInt_eq n
    · exact ⟨d, ds, h, if_pos (by simp [hd])⟩
    · exact ⟨'-', d :: ds, h, rfl⟩
  | str s => exact ⟨'"', _, rfl, rfl⟩
  | @arr vs h => cases vs <;> exact ⟨'[', _, rfl, rfl⟩
  | @obj fs h => rcases fs with _ | ⟨⟨k, v⟩, fs⟩ <;> exact ⟨'{', _, rfl, rfl⟩

theorem sign_eq_of_append_eq {depth : Nat} (hv : v.FloatFree) (hw : w.FloatFree)
    (h : printAt .inline depth v ++ rest = printAt .inline depth w ++ rest') :
    sign v = sign w := by
  obtain ⟨c, cs, hc, hsign⟩ := exists_printAt_sign depth hv
  obtain ⟨d, ds, hd, hsign'⟩ := exists_printAt_sign depth hw
  rw [hc, hd] at h
  rw [← hsign, ← hsign', (List.cons.inj h).1]

/-- The bracket behind a list begins no value. -/
theorem printAt_append_ne {depth : Nat} (hv : v.FloatFree) (cs ds : List Char) :
    printAt .inline depth v ++ cs ≠ ']' :: ds := by
  obtain ⟨c, cs', hc, hsign⟩ := exists_printAt_sign depth hv
  rw [hc]
  rintro ⟨⟩
  cases hv with
  | bool b => cases b <;> cases hsign
  | _ => cases hsign

def printField (depth : Nat) (f : String × Value) : List Char :=
  printString f.1 ++ ':' :: ' ' :: printAt .inline depth f.2

theorem printItems_inline (depth : Nat) (vs : List Value) :
    printItems .inline depth vs =
      vs.flatMap fun v => ',' :: ([' '] ++ printAt .inline depth v) := by
  induction vs with
  | nil => rfl
  | cons v vs ih =>
    rw [printItems, ih, List.flatMap_cons]
    rfl

theorem printFields_inline (depth : Nat) (fs : List (String × Value)) :
    printFields .inline depth fs = fs.flatMap fun f => ',' :: ([' '] ++ printField depth f) := by
  induction fs with
  | nil => rfl
  | cons f fs ih =>
    rw [printFields, ih, List.flatMap_cons]
    rfl

theorem printAt_arr (depth : Nat) (vs : List Value) :
    printAt .inline depth (.arr vs) = inBrackets '[' ']' (printAt .inline (depth + 1)) vs := by
  cases vs with
  | nil => rfl
  | cons v vs =>
    rw [printAt, printItems_inline]
    simp [inBrackets, Layout.break]

theorem printAt_obj (depth : Nat) (fs : List (String × Value)) :
    printAt .inline depth (.obj fs) = inBrackets '{' '}' (printField (depth + 1)) fs := by
  cases fs with
  | nil => rfl
  | cons f fs =>
    rw [printAt, printFields_inline]
    simp [inBrackets, Layout.break, printField]

theorem setsApart_printField {f : String × Value} {depth : Nat}
    (hf : SetsApart (printAt .inline depth) Value.FloatFree EndsNumber f.2) :
    SetsApart (printField depth) (fun f => f.2.FloatFree) EndsNumber f := by
  intro f' rest rest' hf' hrest hrest' h
  simp only [printField, List.append_assoc, List.cons_append] at h
  obtain ⟨hkey, htail⟩ := setsApart_printString f.1 trivial trivial trivial h
  simp only [List.cons.injEq, true_and] at htail
  obtain ⟨hvalue, hrests⟩ := hf hf' hrest hrest' htail
  exact ⟨Prod.ext hkey hvalue, hrests⟩

theorem setsApart_arr {depth : Nat} (hvs : ∀ v ∈ vs, v.FloatFree)
    (h : ∀ v ∈ vs, SetsApart (printAt .inline (depth + 1)) Value.FloatFree EndsNumber v) :
    SetsApart (fun vs => printAt .inline depth (.arr vs)) (fun ws => ∀ w ∈ ws, w.FloatFree)
      (fun _ => True) vs := by
  intro ws rest rest' hws _ _ htext
  simp only [printAt_arr] at htext
  exact SetsApart.inBrackets (fun _ => endsNumber_cons (by simp) _)
    (fun _ => endsNumber_cons (by simp) _) (by decide) (fun _ hv => printAt_append_ne hv)
    (fun v hv => ⟨hvs v hv, h v hv⟩) hws trivial trivial htext

theorem setsApart_obj {depth : Nat} (hfs : ∀ f ∈ fs, f.2.FloatFree)
    (h : ∀ f ∈ fs, SetsApart (printAt .inline (depth + 1)) Value.FloatFree EndsNumber f.2) :
    SetsApart (fun fs => printAt .inline depth (.obj fs)) (fun gs => ∀ g ∈ gs, g.2.FloatFree)
      (fun _ => True) fs := by
  intro gs rest rest' hgs _ _ htext
  simp only [printAt_obj] at htext
  exact SetsApart.inBrackets (P := fun f => f.2.FloatFree) (fun _ => endsNumber_cons (by simp) _)
    (fun _ => endsNumber_cons (by simp) _) (by decide) (fun _ _ _ _ => by rintro ⟨⟩)
    (fun f hf => ⟨hfs f hf, setsApart_printField (h f hf)⟩) hgs trivial trivial htext

/-- Values without floats are told apart by their text in front of what ends a number. The induction
is on the first of the two; the sign of its text gives the kind of the other. -/
theorem setsApart_printAt (hv : v.FloatFree) (depth : Nat) :
    SetsApart (printAt .inline depth) Value.FloatFree EndsNumber v := by
  intro w rest rest' hw hrest hrest' h
  induction hv generalizing depth w rest rest' with
  | null =>
    have hsign := sign_eq_of_append_eq .null hw h
    cases hw with
    | null => exact ⟨rfl, List.append_cancel_left h⟩
    | bool b => cases b <;> cases hsign
    | _ => cases hsign
  | bool b =>
    have hsign := sign_eq_of_append_eq (.bool b) hw h
    cases hw with
    | bool b' =>
      obtain rfl : b = b' := by cases b <;> cases b' <;> first | rfl | cases hsign
      exact ⟨rfl, List.append_cancel_left h⟩
    | _ => cases b <;> cases hsign
  | int n =>
    have hsign := sign_eq_of_append_eq (.int n) hw h
    cases hw with
    | int m =>
      obtain ⟨rfl, hrests⟩ := setsApart_printInt n trivial hrest hrest' h
      exact ⟨rfl, hrests⟩
    | bool b => cases b <;> cases hsign
    | _ => cases hsign
  | str s =>
    have hsign := sign_eq_of_append_eq (.str s) hw h
    cases hw with
    | str t =>
      obtain ⟨rfl, hrests⟩ := setsApart_printString s trivial trivial trivial h
      exact ⟨rfl, hrests⟩
    | bool b => cases b <;> cases hsign
    | _ => cases hsign
  | @arr vs hvs ih =>
    have hsign := sign_eq_of_append_eq (.arr hvs) hw h
    cases hw with
    | arr hws =>
      have hlist := setsApart_arr hvs fun v hv => @ih v hv (depth + 1)
      obtain ⟨rfl, hrests⟩ := hlist hws trivial trivial h
      exact ⟨rfl, hrests⟩
    | bool b => cases b <;> cases hsign
    | _ => cases hsign
  | @obj fs hfs ih =>
    have hsign := sign_eq_of_append_eq (.obj hfs) hw h
    cases hw with
    | obj hgs =>
      have hobject := setsApart_obj hfs fun f hf => @ih f hf (depth + 1)
      obtain ⟨rfl, hrests⟩ := hobject hgs trivial trivial h
      exact ⟨rfl, hrests⟩
    | bool b => cases b <;> cases hsign
    | _ => cases hsign

end Json

end VueWrap
