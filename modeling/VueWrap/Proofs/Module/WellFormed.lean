import VueWrap.Proofs.Code.Values
import VueWrap.Proofs.Mapping.Parts
import VueWrap.Proofs.Module.Renders

/-! # Modules are well-formed code

Every block of a module closes the brackets that it opens, whatever texts and
values stand in it, as long as names have no brackets and no quotation marks and
paths can stand in a literal. So does the module, which is put together from its
blocks.
-/

namespace VueWrap

open Metadata Code

/-- The name of the prop, as it is written, has no brackets and no quotation marks. -/
def PropDecl.BareName (p : PropDecl) : Prop := Bare p.name.display.toList

/-- None of the names of the children has brackets or quotation marks. -/
def Children.BareNames (cs : Children) : Prop := ∀ e ∈ cs, Bare e.1.display.toList

/-- No name of the nested component has brackets or quotation marks. -/
structure Nested.BareNames (n : Nested) : Prop where
  name : Bare n.name.toList
  props : ∀ p ∈ n.props, p.BareName
  children : ∀ cs ∈ n.children, cs.BareNames

/-- No name of the component has brackets or quotation marks. -/
structure Component.BareNames (c : Component) : Prop where
  name : Bare c.name.toList
  widget : Bare c.widget.name.toList
  props : ∀ p ∈ c.props, p.BareName
  children : ∀ cs ∈ c.children, cs.BareNames
  nested : ∀ ns ∈ c.nested, ∀ n ∈ ns, n.BareNames

/-- All paths of the module may stand in literals. -/
structure Module.Target.QuotablePaths (t : Module.Target) (c : Component) : Prop where
  package : Quotable t.package.display.toList
  widget : Quotable c.widget.path.display.toList
  base : Quotable c.base.path.display.toList
  config : Quotable c.config.path.display.toList

/-- A text without brackets and quotation marks. -/
inductive IsBareText : Form
  | mk {s : String} (h : Bare s.toList) : IsBareText (.str s)

theorem isBareText_str (s : String) : IsBareText (.str s) ↔ Bare s.toList :=
  ⟨fun h => by cases h; assumption, .mk⟩

theorem Resolver.tokensOf_standard : standard.TokensOf IsBareText := by
  simp only [TokensOf, standard, objectToken, arrayToken, functionToken, stringToken,
    List.forall_mem_cons, List.not_mem_nil, false_implies, implies_true, and_true, isBareText_str]
  decide

namespace Module

variable {r m r' : Reader} {due cs : List Char} {s : String} {ss : List String}
  {types : List Value} {p : PropDecl} {ps : List PropDecl} {c : Component} {n : Nested}
  {ns : List Nested} {t : Target}

theorem reads_end (r : Reader) : Reads r (text []) r := reads_nil r

theorem reads_piece (hs : Reads r s.toList m) (hss : Reads m (text ss) r') :
    Reads r (text (s :: ss)) r' := by
  rw [text_cons]
  exact hs.append hss

/-- A fixed piece is read as the characters that it is written with. -/
theorem reads_fixed (h : Reads r cs m) (hss : Reads m (text ss) r') :
    Reads r (text (String.ofList cs :: ss)) r' := by
  refine reads_piece ?_ hss
  rwa [String.toList_ofList]

theorem reads_line (h : Reads r (text ss) ⟨.code, due⟩) : Reads r (line ss) ⟨.code, due⟩ :=
  h.append rfl

theorem reads_fixedLine (h : Reads r cs ⟨.code, due⟩) :
    Reads r (line [String.ofList cs]) ⟨.code, due⟩ :=
  reads_line <| reads_fixed h <| reads_end _

theorem balanced_listed {mark : String} {items : List (List Char)} (hmark : Bare mark.toList)
    (h : ∀ item ∈ items, Balanced item) : Balanced (listed mark items) := by
  have hend : Balanced ['\n'] := fun _ => rfl
  induction items with
  | nil => exact balanced_nil
  | cons item items ih =>
    rw [List.forall_mem_cons] at h
    cases items with
    | nil => exact h.1.append hend
    | cons next items => exact (h.1.append hmark.balanced).append (hend.append (ih h.2))

theorem balanced_when {b : Bool} (h : b = true → Balanced cs) : Balanced (when b cs) := by
  cases b with
  | true => exact h rfl
  | false => exact balanced_nil

theorem balanced_print (v : Value) : Balanced (Json.print v) :=
  balanced_printAt (fun _ _ h => absurd h List.not_mem_nil) 0 v

theorem balanced_printBlock (width : Nat) (v : Value) : Balanced (Json.printBlock width v) :=
  balanced_printAt (Json.blank_spaced width) 0 v

theorem balanced_write (v : Value) : Balanced (Json.write v).toList := by
  rw [Json.write, String.toList_ofList]
  exact balanced_print v

theorem bare_intercalate {names : List String} (h : ∀ s ∈ names, Bare s.toList) :
    Bare (", ".intercalate names).toList := by
  induction names with
  | nil => decide
  | cons s names ih =>
    rw [List.forall_mem_cons] at h
    cases names with
    | nil =>
      rw [String.intercalate_singleton]
      exact h.1
    | cons s' names =>
      rw [String.intercalate_cons_cons, String.toList_append, String.toList_append]
      exact (h.1.append (by decide)).append (ih h.2)

theorem exists_bracketed (h : ∀ t ∈ types, IsBareText t) :
    Gives (bracketed types) fun v => Balanced v.display.toList := by
  rw [bracketed, gives_bind_iff]
  refine ((gives_mapM_iff (R := fun s => Bare s.toList)).mpr fun t ht => ?name).imp
    fun names hnames => gives_ok_iff.mpr ?joined
  case name =>
    obtain ⟨hs⟩ := h t ht
    exact gives_ok_iff.mpr hs
  case joined =>
    rw [Value.display_str, String.toList_append, String.toList_append]
    exact (bare_intercalate hnames).balanced.between (fun _ => rfl) fun _ => rfl

theorem exists_constructorText (h : p.TypesOf IsBareText) :
    ∃ s, constructorText p.types = some s ∧ Balanced s.toList := by
  have hconstructors : Gives (constructors (.arr p.types)) fun v => Balanced v.display.toList := by
    unfold PropDecl.TypesOf at h
    generalize p.types = types at h ⊢
    match types, h with
    | [], _ => exact gives_ok_iff.mpr fun _ => rfl
    | [t], h =>
      obtain ⟨ht⟩ := h t List.mem_cons_self
      exact gives_ok_iff.mpr ht.balanced
    | _ :: _ :: _, h => exact exists_bracketed h
  obtain ⟨v, hv, hbalanced⟩ := hconstructors
  rw [constructorText, hv]
  exact ⟨_, rfl, hbalanced⟩

theorem balanced_validator (limits : Restriction) : Balanced (validator limits) := fun _ =>
  reads_fixed rfl <| reads_piece (balanced_write _ _) <| reads_fixed rfl <|
    reads_piece (balanced_write _ _) <| reads_fixed rfl <| reads_end _

theorem exists_propEntry (htypes : p.TypesOf IsBareText) (hname : p.BareName) :
    ∃ cs, propEntry p = some cs ∧ Balanced cs := by
  obtain ⟨s, hs, hbalanced⟩ := exists_constructorText htypes
  rw [propEntry, hs]
  cases hlimits : p.restriction with
  | none =>
    refine ⟨_, rfl, fun due => ?_⟩
    exact reads_fixed rfl <| reads_piece (hname.balanced _) <| reads_fixed rfl <|
      reads_piece (hbalanced _) <| reads_end _
  | some limits =>
    refine ⟨_, rfl, fun due => ?_⟩
    have hopen : Reads ⟨.code, due⟩ (line ["    ", p.name.display, ": \x7b"])
        ⟨.code, '}' :: due⟩ :=
      reads_line <| reads_fixed rfl <| reads_piece (hname.balanced _) <|
        reads_fixed rfl <| reads_end _
    have htype : Reads ⟨.code, '}' :: due⟩ (line ["      type: ", s, ","]) ⟨.code, '}' :: due⟩ :=
      reads_line <| reads_fixed rfl <| reads_piece (hbalanced _) <|
        reads_fixed rfl <| reads_end _
    exact ((hopen.append htype).append (balanced_validator limits _)).append rfl

theorem exists_propsBlock (htypes : ∀ p ∈ ps, p.TypesOf IsBareText)
    (hnames : ∀ p ∈ ps, p.BareName) : ∃ cs, propsBlock ps = some cs ∧ Balanced cs := by
  obtain ⟨entries, hentries, hbalanced⟩ :=
    exists_mapM_eq_some fun p hp => exists_propEntry (htypes p hp) (hnames p hp)
  rw [propsBlock, hentries]
  refine ⟨_, rfl, fun due => ?_⟩
  have hopen : Reads ⟨.code, due⟩ (line ["  props: \x7b"]) ⟨.code, '}' :: due⟩ :=
    reads_fixedLine rfl
  exact (hopen.append (balanced_listed (by decide) hbalanced _)).append rfl

theorem balanced_emitsBlock (names : List String) : Balanced (emitsBlock names) := by
  intro due
  have hopen : Reads ⟨.code, due⟩ (line ["  emits: \x7b"]) ⟨.code, '}' :: due⟩ :=
    reads_fixedLine rfl
  have hentries : Balanced (listed "," (names.map eventEntry)) := by
    refine balanced_listed (by decide) (List.forall_mem_map.mpr fun event _ _ => ?_)
    exact reads_fixed rfl <| reads_piece (balanced_write _ _) <| reads_fixed rfl <|
      reads_end _
  exact (hopen.append (hentries _)).append rfl

theorem balanced_childrenBlock {children : Children} (h : children.BareNames) :
    Balanced (childrenBlock children) := by
  intro due
  have hopen : Reads ⟨.code, due⟩ (line ["\x7b"]) ⟨.code, '}' :: due⟩ := rfl
  have hentries : Balanced (listed "," (children.map childEntry)) := by
    refine balanced_listed (by decide) (List.forall_mem_map.mpr fun child hchild _ => ?_)
    exact reads_fixed rfl <| reads_piece ((h child hchild).balanced _) <|
      reads_fixed rfl <| reads_piece (balanced_write _ _) <| reads_fixed rfl <|
      reads_piece (balanced_write _ _) <| reads_fixed rfl <| reads_end _
  exact (hopen.append (hentries _)).append rfl

theorem bare_base (hc : c.HasFactories) : Bare c.base.name.toList := by
  rcases hc.base with h | h <;> rw [h] <;> decide

theorem bare_config (hc : c.HasFactories) : Bare c.config.name.toList := by
  rw [hc.config]
  decide

theorem balanced_opening {path : String} (hpath : Quotable path.toList)
    (hwidget : Bare c.widget.name.toList) (hc : c.HasFactories)
    (hbase : Quotable c.base.path.display.toList)
    (hconfig : Quotable c.config.path.display.toList) : Balanced (opening path c) := by
  refine ((Balanced.append ?params ?widget).append ?base).append ?config
  case params =>
    exact balanced_when fun _ _ => reads_line <| reads_fixed rfl <|
      reads_piece (hpath.reads _) <| reads_fixed rfl <| reads_end _
  case widget =>
    exact fun _ => reads_line <| reads_fixed rfl <| reads_piece (hwidget.balanced _) <|
      reads_fixed rfl <| reads_piece (hpath.reads _) <| reads_fixed rfl <|
      reads_end _
  case base =>
    exact fun _ => reads_line <| reads_fixed rfl <| reads_piece ((bare_base hc).balanced _) <|
      reads_fixed rfl <| reads_piece (hbase.reads _) <| reads_fixed rfl <|
      reads_end _
  case config =>
    exact balanced_when fun _ _ => reads_line <| reads_fixed rfl <|
      reads_piece ((bare_config hc).balanced _) <| reads_fixed rfl <|
      reads_piece (hconfig.reads _) <| reads_fixed rfl <| reads_end _

theorem balanced_optionsType (ps : List PropDecl) : Balanced (optionsType ps) := by
  unfold optionsType
  split
  · exact fun _ => reads_fixedLine rfl
  · have hhead : Balanced (line ["type AccessibleOptions = Pick<Properties,"]) := fun _ => rfl
    have hnames : Balanced (listed " |" (ps.map fun p => text ["  ", Json.write p.name])) := by
      refine balanced_listed (by decide) (List.forall_mem_map.mpr fun p _ _ => ?_)
      exact reads_fixed rfl <| reads_piece (balanced_write _ _) <| reads_end _
    exact (hhead.append hnames).append fun _ => rfl

theorem balanced_interface (hname : Bare c.name.toList) (hwidget : Bare c.widget.name.toList) :
    Balanced (interface c) := by
  intro due
  have hopen : Reads ⟨.code, due⟩ (line ["interface ", c.name, " extends AccessibleOptions \x7b"])
      ⟨.code, '}' :: due⟩ :=
    reads_line <| reads_fixed rfl <| reads_piece (hname.balanced _) <|
      reads_fixed rfl <| reads_end _
  have hinstance : Reads ⟨.code, '}' :: due⟩ (line ["  readonly instance?: ", c.widget.name, ";"])
      ⟨.code, '}' :: due⟩ :=
    reads_line <| reads_fixed rfl <| reads_piece (hwidget.balanced _) <|
      reads_fixed rfl <| reads_end _
  exact (hopen.append hinstance).append rfl

theorem balanced_binding (v : VueVersion) (c : Component) : Balanced (binding v c) := by
  cases v with
  | two => exact balanced_when fun _ _ => reads_fixedLine rfl
  | three => exact (balanced_emitsBlock _).append fun _ => rfl

theorem bareNames_namedChildren {children : Option Children}
    (h : ∀ cs ∈ children, cs.BareNames) : (namedChildren children).BareNames := by
  cases children with
  | none => exact List.forall_mem_nil _
  | some cs => exact h cs rfl

theorem balanced_creation (hwidget : Bare c.widget.name.toList)
    (hchildren : ∀ cs ∈ c.children, cs.BareNames) : Balanced (creation c) := by
  intro due
  have hopen : Reads ⟨.code, due⟩ (line ["  beforeCreate() \x7b"]) ⟨.code, '}' :: due⟩ :=
    reads_fixedLine rfl
  have hclass : Balanced (line ["    (this as any).$_WidgetClass = ", c.widget.name, ";"]) :=
    fun _ => reads_line <| reads_fixed rfl <| reads_piece (hwidget.balanced _) <|
      reads_fixed rfl <| reads_end _
  have hmodel : Balanced (when c.hasModel (line ["    (this as any).$_hasModel = true;"])) :=
    balanced_when fun _ _ => reads_fixedLine rfl
  have hexpected : Balanced (when (!(namedChildren c.children).isEmpty)
      (text ["    (this as any).$_expectedChildren = "] ++
        Text.indent 4 false (childrenBlock (namedChildren c.children)) ++ line [";"])) := by
    have hblock := balanced_childrenBlock (bareNames_namedChildren hchildren)
    have hhead : Balanced (text ["    (this as any).$_expectedChildren = "]) :=
      fun _ => reads_fixed rfl <| reads_end _
    have hindented : Balanced (Text.indent 4 false (childrenBlock (namedChildren c.children))) :=
      fun due => (hblock due).indent 4
    exact balanced_when fun _ => (hhead.append hindented).append fun _ => rfl
  exact (((hopen.append (hclass _)).append (hmodel _)).append (hexpected _)).append rfl

theorem balanced_definition (v : VueVersion) (hc : c.HasFactories) (hnames : c.BareNames)
    {props : List Char} (hprops : Balanced props) : Balanced (definition v c props) := by
  intro due
  have hopen : Reads ⟨.code, due⟩ (line ["const ", c.name, " = ", c.base.name, "(\x7b"])
      ⟨.code, '}' :: ')' :: due⟩ :=
    reads_line <| reads_fixed rfl <| reads_piece (hnames.name.balanced _) <|
      reads_fixed rfl <| reads_piece ((bare_base hc).balanced _) <| reads_fixed rfl <|
      reads_end _
  have hcomma : Balanced (line [","]) := fun _ => rfl
  have hcomputed : Reads ⟨.code, '}' :: ')' :: due⟩ (line ["  computed: \x7b"])
      ⟨.code, '}' :: '}' :: ')' :: due⟩ := reads_fixedLine rfl
  have hinstance : Reads ⟨.code, '}' :: '}' :: ')' :: due⟩
      (line ["    instance(): ", c.widget.name, " \x7b"])
      ⟨.code, '}' :: '}' :: '}' :: ')' :: due⟩ :=
    reads_line <| reads_fixed rfl <| reads_piece (hnames.widget.balanced _) <|
      reads_fixed rfl <| reads_end _
  have hreturn : Balanced (line ["      return (this as any).$_instance;"]) :=
    fun _ => reads_fixedLine rfl
  have hcreation := balanced_creation hnames.widget hnames.children
  have hhead := ((hopen.append (hprops _)).append (hcomma _)).append (balanced_binding v c _)
  have hbody := ((hhead.append hcomputed).append hinstance).append (hreturn _)
  have hmethod : Reads ⟨.code, '}' :: '}' :: '}' :: ')' :: due⟩ (line ["    \x7d"])
      ⟨.code, '}' :: '}' :: ')' :: due⟩ := rfl
  have hmethods : Reads ⟨.code, '}' :: '}' :: ')' :: due⟩ (line ["  \x7d,"])
      ⟨.code, '}' :: ')' :: due⟩ := rfl
  exact (((hbody.append hmethod).append hmethods).append (hcreation _)).append rfl

theorem balanced_assignment (hname : Bare n.name.toList) {field : String}
    (hfield : Bare field.toList) {value : List Char} (hvalue : Balanced value) :
    Balanced (assignment n field value) := by
  have hhead : Balanced (text ["(", n.name, " as any).", field, " = "]) := fun _ =>
    reads_fixed rfl <| reads_piece (hname.balanced _) <| reads_fixed rfl <|
      reads_piece (hfield.balanced _) <| reads_fixed rfl <| reads_end _
  exact (hhead.append hvalue).append fun _ => reads_fixedLine rfl

theorem balanced_nestedDefinition (v : VueVersion) {factory : String}
    (hfactory : Bare factory.toList) (hn : n.BareNames) {props : List Char}
    (hprops : Balanced props) :
    Balanced (nestedDefinition v factory n props) := by
  have hopen (due : List Char) : Reads ⟨.code, due⟩
      (line ["const ", n.name, " = ", factory, "(\x7b"]) ⟨.code, '}' :: ')' :: due⟩ :=
    reads_line <| reads_fixed rfl <| reads_piece (hn.name.balanced _) <| reads_fixed rfl <|
      reads_piece (hfactory.balanced _) <| reads_fixed rfl <| reads_end _
  have hemits : Balanced (when (v = .three) (emitsBlock (events n.props false) ++ line [","])) :=
    balanced_when fun _ => (balanced_emitsBlock _).append fun _ => reads_fixedLine rfl
  have hend : Balanced (line []) := fun _ => rfl
  have hconstant : Balanced (line [] ++ line ["const ", n.name, " = ", factory, "(\x7b"] ++
      when (v = .three) (emitsBlock (events n.props false) ++ line [","]) ++ props ++ line [] ++
      line ["\x7d);"]) := fun due =>
    (((((hend _).append (hopen due)).append (hemits _)).append (hprops _)).append (hend _)).append
      (reads_fixedLine rfl)
  have hfield : Bare "$_optionName".toList := by decide
  have hoption := balanced_assignment hn.name hfield (balanced_print n.option)
  have hitem : Balanced (when n.isCollectionItem.holds
      (assignment n "$_isCollectionItem" (text ["true"]))) :=
    balanced_when fun _ => balanced_assignment hn.name (by decide) fun _ => rfl
  have hpredefined : Balanced (when n.predefined.holds
      (assignment n "$_predefinedProps" (Json.printBlock 2 n.predefined))) :=
    balanced_when fun _ =>
      balanced_assignment hn.name (by decide) (balanced_printBlock 2 n.predefined)
  have hexpected : Balanced (when (!(namedChildren n.children).isEmpty)
      (assignment n "$_expectedChildren" (childrenBlock (namedChildren n.children)))) :=
    balanced_when fun _ => balanced_assignment hn.name (by decide)
      (balanced_childrenBlock (bareNames_namedChildren hn.children))
  exact (((hconstant.append hoption).append hitem).append hpredefined).append hexpected

theorem exists_nestedDefinitions (v : VueVersion) {factory : String}
    (hfactory : Bare factory.toList) (hnames : ∀ n ∈ ns, n.BareNames)
    (htypes : ∀ n ∈ ns, ∀ p ∈ n.props, p.TypesOf IsBareText) :
    ∃ cs, nestedDefinitions v factory ns = some cs ∧ Balanced cs := by
  have hone : ∀ n ∈ ns, ∃ cs, (propsBlock n.props).map (nestedDefinition v factory n) = some cs ∧
      Balanced cs := by
    intro n hn
    obtain ⟨props, hprops, hbalanced⟩ := exists_propsBlock (htypes n hn) (hnames n hn).props
    exact ⟨_, by rw [hprops]; rfl, balanced_nestedDefinition v hfactory (hnames n hn) hbalanced⟩
  obtain ⟨css, hcss, hbalanced⟩ := exists_mapM_eq_some hone
  rw [nestedDefinitions, hcss]
  exact ⟨_, rfl, balanced_flatten hbalanced⟩

theorem balanced_closing (hname : Bare c.name.toList) (hns : ∀ n ∈ ns, Bare n.name.toList) :
    Balanced (closing c ns) := by
  have hexport : Balanced (line ["export default ", c.name, ";"]) := fun _ =>
    reads_line <| reads_fixed rfl <| reads_piece (hname.balanced _) <| reads_fixed rfl <|
      reads_end _
  have hend : Balanced (line []) := fun _ => rfl
  have hdefault := hend.append hexport
  have hnames :
      Balanced (listed "," ((c.name :: ns.map (·.name)).map fun n => text ["  ", n])) := by
    refine balanced_listed (by decide) (List.forall_mem_map.mpr fun n hn _ => ?_)
    have hbare : Bare n.toList := by
      rcases List.mem_cons.mp hn with rfl | hn
      · exact hname
      · obtain ⟨n', hn', rfl⟩ := List.mem_map.mp hn
        exact hns n' hn'
    exact reads_fixed rfl <| reads_piece (hbare.balanced _) <| reads_end _
  intro due
  have hopen : Reads ⟨.code, due⟩ (line ["export \x7b"]) ⟨.code, '}' :: due⟩ := reads_fixedLine rfl
  exact (((hdefault _).append hopen).append (hnames _)).append (reads_fixedLine rfl)

theorem exists_balanced_component (t : Target) (hc : c.HasFactories)
    (htypes : c.TypesOf IsBareText) (hnames : c.BareNames) (hpaths : t.QuotablePaths c) :
    ∃ cs, component t c = some cs ∧ Balanced cs := by
  obtain ⟨hns, hnsTypes⟩ : (∀ n ∈ c.nested.getD [], n.BareNames) ∧
      ∀ n ∈ c.nested.getD [], ∀ p ∈ n.props, p.TypesOf IsBareText := by
    cases hnested : c.nested with
    | none => exact ⟨List.forall_mem_nil _, List.forall_mem_nil _⟩
    | some ns => exact ⟨hnames.nested ns hnested, htypes.nested ns hnested⟩
  have hpath : Quotable (t.path c).toList := by
    rw [Target.path, String.toList_append, String.toList_append]
    exact (hpaths.package.append (by decide)).append hpaths.widget
  obtain ⟨props, hprops, hbalanced⟩ := exists_propsBlock htypes.props hnames.props
  obtain ⟨inner, hinner, hinnerBalanced⟩ :=
    exists_nestedDefinitions t.version (bare_config hc) hns hnsTypes
  have hend : Balanced (line []) := fun _ => rfl
  have hopening := balanced_opening hpath hnames.widget hc hpaths.base hpaths.config
  have hheader := ((((hopening.append hend).append (balanced_optionsType c.props)).append
    hend).append (balanced_interface hnames.name hnames.widget)).append hend
  have hdefinitions := (hheader.append
    (balanced_definition t.version hc hnames hbalanced)).append hinnerBalanced
  have hclosed := hdefinitions.append (balanced_closing hnames.name fun n hn => (hns n hn).name)
  have hreexports : Balanced (when (t.reexports && c.hasReexports)
      (line ["export type * as ", c.widget.name, "Types from \"", t.path c, "_types\";"])) :=
    balanced_when fun _ _ => reads_line <| reads_fixed rfl <|
      reads_piece (hnames.widget.balanced _) <| reads_fixed rfl <| reads_piece (hpath.reads _) <|
      reads_fixed rfl <| reads_end _
  refine ⟨_, ?_, hclosed.append hreexports⟩
  simp only [component, hprops, hinner]
  rfl

/-- Whatever values and strings stand in a module, it is well-formed code. -/
theorem exists_wellFormed_component {g : Registry} {places : Mapping.Places} {w : Widget}
    {file : ComponentFile} (t : Target)
    (hfile : (Mapping.widget .standard g places w).result = .ok file)
    (hnames : file.component.BareNames) (hpaths : t.QuotablePaths file.component) :
    ∃ cs, component t file.component = some cs ∧ WellFormed cs := by
  have hbare : IsBareText Resolver.objectToken := .mk (by decide)
  have htypes :=
    Mapping.givesOnly_widget_typesOf hbare Resolver.tokensOf_standard places w file hfile
  obtain ⟨name, hof⟩ := Mapping.givesOnly_widget_isFileOf places w file hfile
  obtain ⟨cs, hcs, hbalanced⟩ :=
    exists_balanced_component t hof.hasFactories htypes hnames hpaths
  exact ⟨cs, hcs, hbalanced.wellFormed⟩

/-- An option limited to values with brackets, quotation marks and backslashes in them. -/
def palette : OptionDecl :=
  ⟨.str "palette", [⟨.str "Enums]", .arr [.str "a\"]\n", .obj [("\x7b", .arr [.str "(\\"])]]⟩]⟩

/-- A widget with such an option and with such option names of its children. -/
def chart : Widget where
  name := .str "dxChart"
  exportPath := .str "viz/chart"
  options := [palette]
  isExtension := .bool false
  isEditor := .bool true
  typeParams := []
  nested := some [⟨.str "point", .str "points\"[", [], .bool true, .obj [(")", .str "\\\"")], []⟩]
  children := [⟨.str "DxPoint", .str "]\n\"", .bool true⟩]
  reexports := [.str "Point"]

def chartFile : ComponentFile where
  fileName := "chart.ts"
  component := {
    name := "DxChart"
    widget := ⟨"Chart", .str "viz/chart"⟩
    base := ⟨Mapping.baseFactory, .str "./core/index"⟩
    config := ⟨Mapping.configFactory, .str "./core/index"⟩
    props := [⟨palette.name, [Resolver.objectToken], false,
      some ⟨"enums]", [.str "a\"]\n", .obj [("\x7b", .arr [.str "(\\"])]]⟩⟩]
    hasModel := true
    hasTypeParams := false
    nested := some
      [⟨"DxPoint", .str "points\"[", [], .bool true, .obj [(")", .str "\\\"")], none⟩]
    children := some [(.str "DxPoint", ⟨true, .str "]\n\""⟩)]
    hasReexports := true }

theorem resolve_palette :
    Resolver.standard.resolve .empty palette.types = .ok [Resolver.objectToken] := by
  rw [palette, Resolver.resolve, Resolver.expand, Resolver.expandOne_eq]
  have hm (v : Value) :
      Resolver.standard.meaning .empty ⟨.str "Enums]", v⟩ = .unknown "Enums]" := rfl
  simp only [hm]
  rw [Resolver.expand]
  rfl

theorem widget_chart : (Mapping.widget .standard .empty
    ⟨.str "./core/index", .str "./core/index", .str ".ts"⟩ chart).result = .ok chartFile := by
  have hprop : (Mapping.prop .standard .empty palette).result =
      .ok ⟨palette.name, [Resolver.objectToken], false,
        some ⟨"enums]", [.str "a\"]\n", .obj [("\x7b", .arr [.str "(\\"])]]⟩⟩ := by
    rw [Mapping.prop, Traced.result_bind, Resolver.result_resolved, resolve_palette]
    rfl
  have hprops : (Mapping.props .standard .empty chart.options).result =
      .ok chartFile.component.props := by
    rw [chart, Mapping.props]
    show (Mapping.prop .standard .empty palette >>= _).result = _
    rw [Traced.result_bind, hprop]
    rfl
  rw [Mapping.widget]
  simp only [Traced.result_bind, hprops]
  rfl

theorem bareNames_chart : chartFile.component.BareNames where
  name := by decide
  widget := by decide
  props := List.forall_mem_singleton.mpr (show Bare _ by decide)
  children := by
    rintro _ ⟨⟩
    exact List.forall_mem_singleton.mpr (by decide)
  nested := by
    rintro _ ⟨⟩
    refine List.forall_mem_singleton.mpr ⟨by decide, List.forall_mem_nil _, ?_⟩
    rintro _ ⟨⟩

/-- Brackets and quotation marks in values do not count. -/
theorem exists_wellFormed_chart :
    ∃ cs, component ⟨.str "devextreme", .three, true⟩ chartFile.component = some cs ∧
      WellFormed cs :=
  exists_wellFormed_component _ widget_chart bareNames_chart
    ⟨by decide, by decide, by decide, by decide⟩

end Module

end VueWrap
