import BranchCover.Proofs.Docstring
import BranchCover.Proofs.Isolation
import BranchCover.Proofs.Sample

/-! The head of a test module: the line that says what is tested, and the import of the class. The line
is one string exactly if the name of the source file can stand between triple quotes as it is. The class
is imported from a path of names exactly if the file and the packages around it are called by names. -/
namespace BranchCover

namespace Word

/-- Whether a text is names with dots between them, none of them a keyword. -/
def isDotted (s : String) : Bool :=
  (s.toList.splitOn '.').all fun w =>
    isName (String.ofList w) && !Source.Token.keywords.contains (String.ofList w)

theorem isDotted_dot (s t : String) : isDotted (s ++ "." ++ t) = (isDotted s && isDotted t) := by
  have hsplit : (s ++ "." ++ t).toList.splitOn '.' = s.toList.splitOn '.' ++ t.toList.splitOn '.' := by
    have hdot : (s ++ "." ++ t).toList = s.toList ++ '.' :: t.toList := by simp
    rw [hdot]
    exact List.splitOnP_append_cons _ _ (beq_self_eq_true '.')
  rw [isDotted, hsplit, List.all_append]
  rfl

theorem isDotted_intercalate {ws : List String} (h : ws ≠ []) :
    isDotted (".".intercalate ws) = ws.all isDotted := by
  induction ws with
  | nil => exact absurd rfl h
  | cons w ws ih =>
    cases ws with
    | nil => simp
    | cons w' ws =>
      rw [String.intercalate_cons_cons, isDotted_dot, ih (by simp), List.all_cons (a := w)]

end Word

namespace Source

/-- A text that can stand as it is in brackets between triple quotes: it stays on one line, has no three
quotes in a row and no escape that cannot be read. -/
structure Quotable [Interpreter] (s : String) : Prop where
  single : Line.Single s.toList
  unclosed : (Quoting.inside 0).after s.toList ≠ .closed
  readable : ∃ t, Literal.unescape (s.toList ++ [')', '.']) = .ok t

/-- What follows a closing bracket is no longer behind a backslash or a quote. -/
theorem Quoting.after_bracket (q : Quoting) :
    q.after [')', '.'] = if q = closed then closed else inside 0 := by
  cases q <;> rfl

end Source

namespace Suite

open Source

/-- The line that says what a module tests is one string that can be read, on a line of its own. -/
structure DocWhole [Interpreter] (s : Suite) (text : String) : Prop where
  single : Line.Single s.docLine.toList
  opens : OpensWith s.docLine (unifyLineEnds true text.toList)
  readable : ∃ t, Literal.unescape (Literal.body s.docLine).chars = .ok t

/-- What stands between the quotes before the name of the source file. -/
def docOpening (s : Suite) : List Char :=
  "Generated tests for ".toList ++ s.className.toList

/-- The name of the source file in brackets, and the full stop. -/
def docEnding (s : Suite) : List Char :=
  (if s.sourceName = "" then [] else ' ' :: '(' :: (s.sourceName.toList ++ [')'])) ++ ['.']

theorem toList_docLine (s : Suite) :
    s.docLine.toList = ['"', '"', '"'] ++ ((s.docOpening ++ s.docEnding) ++ ['"', '"', '"']) := by
  have hopening : "\"\"\"Generated tests for ".toList =
      ['"', '"', '"'] ++ "Generated tests for ".toList := by simp
  have hclosing : ".\"\"\"".toList = ['.'] ++ ['"', '"', '"'] := by simp
  have hfile : (if s.sourceName == "" then "" else " (" ++ s.sourceName ++ ")").toList =
      if s.sourceName = "" then [] else ' ' :: '(' :: (s.sourceName.toList ++ [')']) := by
    by_cases h : s.sourceName = "" <;> simp [h]
  have hline : s.docLine = "\"\"\"Generated tests for " ++ s.className ++
      (if s.sourceName == "" then "" else " (" ++ s.sourceName ++ ")") ++ ".\"\"\"" := rfl
  unfold docOpening docEnding
  generalize "Generated tests for ".toList = opening at hopening
  rw [hline, String.toList_append, String.toList_append, String.toList_append, hopening, hclosing,
    hfile]
  simp only [List.append_assoc]

variable {s : Suite}

theorem docOpening_plain (hname : Word.isName s.className = true) :
    ∀ c ∈ s.docOpening, c ≠ '"' ∧ c ≠ '\\' := by
  have hfixed : '"' ∉ "Generated tests for ".toList ∧ '\\' ∉ "Generated tests for ".toList := by decide
  intro c hc
  rcases List.mem_append.mp hc with hc | hc
  · exact ⟨ne_of_mem_of_not_mem hc hfixed.1, ne_of_mem_of_not_mem hc hfixed.2⟩
  · have hinside := Word.isInside_of_mem hname hc
    constructor <;>
    · rintro rfl
      exact absurd hinside (by decide)

theorem after_docBody (hname : Word.isName s.className = true) :
    (Quoting.inside 0).after (s.docOpening ++ s.docEnding) =
      if (Quoting.inside 0).after s.sourceName.toList = .closed then .closed else .inside 0 := by
  rw [Quoting.after_append, Quoting.after_of_plain (docOpening_plain hname), docEnding]
  by_cases hfile : s.sourceName = ""
  · simp [hfile]
    rfl
  · rw [if_neg hfile, List.cons_append, List.cons_append, List.append_assoc]
    have hopen : (Quoting.inside 0).after (' ' :: '(' :: (s.sourceName.toList ++ ([')'] ++ ['.']))) =
        (Quoting.inside 0).after (s.sourceName.toList ++ [')', '.']) := rfl
    rw [hopen, Quoting.after_append, Quoting.after_bracket]

theorem readable_docBody [Interpreter] (hname : Word.isName s.className = true) :
    (∃ t, Literal.unescape (s.docOpening ++ s.docEnding) = .ok t) ↔
      ∃ t, Literal.unescape (s.sourceName.toList ++ [')', '.']) = .ok t := by
  rw [Literal.unescape_append fun c hc => (docOpening_plain hname c hc).2, docEnding]
  by_cases hfile : s.sourceName = ""
  · simp only [hfile, if_true]
    exact ⟨fun _ => ⟨_, rfl⟩, fun _ => ⟨_, rfl⟩⟩
  · rw [if_neg hfile, List.cons_append, List.cons_append, List.append_assoc]
    exact Literal.unescape_append (w := [' ', '(']) (by simp)

theorem single_docLine (hname : Word.isName s.className = true) :
    Line.Single s.docLine.toList ↔ Line.Single s.sourceName.toList := by
  have hopening : Line.Single s.docOpening :=
    Line.single_append.mpr ⟨by decide, Line.single_of_isName hname⟩
  have hending : Line.Single s.docEnding ↔ Line.Single s.sourceName.toList := by
    by_cases h : s.sourceName = "" <;> simp [docEnding, h, Line.isBreak]
  have hquotes : Line.Single ['"', '"', '"'] := by decide
  rw [toList_docLine, ← hending]
  simp only [Line.single_append, hopening, hquotes, true_and, and_true]

/-- The name of the source file decides alone whether the line is whole. -/
theorem docWhole_iff [Interpreter] (hname : Word.isName s.className = true) {text : String}
    {rest : List Char} (htext : text.toList = s.docLine.toList ++ '\n' :: rest) :
    s.DocWhole text ↔ Quotable s.sourceName := by
  have hbody := after_docBody hname
  have hreadable : (∃ t, Literal.unescape (Literal.body s.docLine).chars = .ok t) ↔
      ∃ t, Literal.unescape (s.sourceName.toList ++ [')', '.']) = .ok t := by
    rw [Literal.body_tripled s.toList_docLine]
    exact readable_docBody hname
  have hopens (hsingle : Line.Single s.docLine.toList) :
      OpensWith s.docLine (unifyLineEnds true text.toList) ↔
        (Quoting.inside 0).after s.sourceName.toList ≠ .closed := by
    obtain ⟨tail, htail⟩ := exists_unifyLineEnds_append true hsingle rest
    rw [htext, htail, opensWith_iff s.toList_docLine (by rw [hbody]; split <;> simp), hbody]
    split <;> simp_all
  constructor
  · rintro ⟨hsingle, hstring, hread⟩
    exact ⟨(single_docLine hname).mp hsingle, (hopens hsingle).mp hstring, hreadable.mp hread⟩
  · rintro ⟨hsingle, hunclosed, hread⟩
    have hline := (single_docLine hname).mpr hsingle
    exact ⟨hline, (hopens hline).mpr hunclosed, hreadable.mpr hread⟩

theorem from_mem_importsOf (module cls : String) (construction : Option Invocation)
    (methods : List MethodTests) :
    s!"from {homeOf module} import " ++ cls ∈ (importsOf module cls construction methods).lines := by
  have hmem : (homeOf module, [cls]) ∈ importsOf module cls construction methods := by
    rw [importsOf_eq_set]
    exact (Imports.mem_set_iff (nodup_wholeImports construction methods)).mpr (.inl ⟨rfl, rfl⟩)
  have hline : s!"from {homeOf module} import " ++ cls ∈
      (importsOf module cls construction methods).fromLines :=
    List.mem_map.mpr ⟨_, List.mem_filter.mpr ⟨hmem, rfl⟩, rfl⟩
  unfold Imports.lines
  simp only [List.mem_append]
  exact .inr (.inr (.inr hline))

/-- A plan is written with the line that says what is tested first and the imports after it. -/
theorem plan_text_eq (o : Options) (sourceName : String) (c : Class) :
    let s := (plan o sourceName c).1
    ∃ (text : String) (rest : List String), s.emit o = .ok text ∧
      text.toList = s.docLine.toList ++ '\n' ::
        (String.join (("" :: (s.imports.lines ++ rest)).map (· ++ "\n"))).toList := by
  intro s
  obtain ⟨rest, hlines⟩ := s.textLines_eq o
  refine ⟨_, rest, emit_eq_join o (plan_values_render o sourceName c), ?_⟩
  rw [hlines, List.map_cons, String.join_cons, String.toList_append, String.toList_append]
  simp

end Suite

namespace Class

theorem module_of_mem {source module : String} {n : Node} {c : Class}
    (h : c ∈ ofModule source module n) : c.module = module := by
  obtain ⟨m, -, hm⟩ := List.mem_filterMap.mp h
  cases m <;> cases hm
  rfl

end Class

theorem Generate.exists_testModules [Interpreter] {source module sourceName : String} {o : Options} {n : Node}
    {c : Class} {text : String} (hn : Outline.ofSource source = .ok n)
    (hc : c ∈ Class.ofModule source module n)
    (htext : (Suite.plan o sourceName c).1.emit o = .ok text) :
    ∃ ts ns, testModules source module o sourceName = (.ok ts, ns) ∧
      ⟨c.name, Name.outputFile c.name, text⟩ ∈ ts := by
  obtain ⟨ts, ns, hts⟩ := testModules_ok hn module o sourceName
  refine ⟨ts, ns, hts, ?_⟩
  simp only [testModules, plans, hn, Prod.mk.injEq] at hts
  obtain ⟨suites, hsuites, hmodules⟩ := bind_eq_ok.mp hts.1
  obtain rfl := Except.ok.inj hsuites
  obtain ⟨m, hm, hmtext⟩ := exists_mem_of_mapM (mapError_eq_ok.mp hmodules) _
    (List.mem_map_of_mem (List.mem_map_of_mem hc))
  obtain ⟨text', htext', hm'⟩ := bind_eq_ok.mp hmtext
  obtain rfl := pure_eq_ok.mp hm'
  obtain rfl := Except.ok.inj (htext.symm.trans htext')
  exact hm

namespace Cli

open FileTree

/-- The name under which the classes of a file are imported. -/
def importName (cur : Location) (t : FileTree) (p : Path) : String :=
  ((moduleName (disk cur) p).run t).1

/-- The names of the packages around a file, and of the file if it does not stand for its package. -/
def importParts (cur : Location) (t : FileTree) (p : Path) : List String :=
  let q := absolute cur p
  ((packages (disk cur) q.root q.parent.parts.reverse).run t).1 ++
    (if q.stem == "__init__" then [] else [q.stem])

variable {cur : Location} {t : FileTree} {p : Path}

theorem importName_eq (cur : Location) (t : FileTree) (p : Path) :
    importName cur t p =
      if ".".intercalate (importParts cur t p) = "" then (absolute cur p).stem
      else ".".intercalate (importParts cur t p) := by
  have hrun : importName cur t p =
      if ".".intercalate (importParts cur t p) == "" then (absolute cur p).stem
      else ".".intercalate (importParts cur t p) := rfl
  simpa using hrun

theorem intercalate_eq_empty_iff {ws : List String} :
    ".".intercalate ws = "" ↔ ws = [] ∨ ws = [""] := by
  match ws with
  | [] => simp
  | [w] => simp
  | w :: w' :: ws =>
    rw [String.intercalate_cons_cons]
    simp

/-- The name under which classes are imported is names with dots between them exactly if each of its
parts is. A file in the package of the root that stands for it goes by its own name. -/
theorem isDotted_importName_iff (cur : Location) (t : FileTree) (p : Path) :
    Word.isDotted (Suite.homeOf (importName cur t p)) = true ↔
      importParts cur t p = [""] ∨ ∀ w ∈ importParts cur t p, Word.isDotted w = true := by
  rw [importName_eq]
  by_cases hempty : ".".intercalate (importParts cur t p) = ""
  · rw [if_pos hempty]
    have hstem : (absolute cur p).stem = "__init__" ∨ (absolute cur p).stem = "" := by
      by_cases hinit : (absolute cur p).stem = "__init__"
      · exact .inl hinit
      · have hlast : (absolute cur p).stem ∈ importParts cur t p := by
          simp [importParts, hinit]
        rcases intercalate_eq_empty_iff.mp hempty with h | h
        · simp [h] at hlast
        · exact .inr (by simpa [h] using hlast)
    have hparts : importParts cur t p = [""] ∨ ∀ w ∈ importParts cur t p, Word.isDotted w = true := by
      rcases intercalate_eq_empty_iff.mp hempty with h | h
      · exact .inr (by simp [h])
      · exact .inl h
    refine iff_of_true ?_ hparts
    rcases hstem with h | h <;> rw [h] <;> decide
  · rw [if_neg hempty]
    have hne : importParts cur t p ≠ [] := fun h => hempty (intercalate_eq_empty_iff.mpr (.inl h))
    have hroot : importParts cur t p ≠ [""] := fun h =>
      hempty (intercalate_eq_empty_iff.mpr (.inr h))
    have hhome : Suite.homeOf (".".intercalate (importParts cur t p)) =
        ".".intercalate (importParts cur t p) := by
      simp [Suite.homeOf, hempty]
    rw [hhome, Word.isDotted_intercalate hne, List.all_eq_true]
    simp [hroot]

/-- A file is planned under the name under which its classes are imported. -/
theorem runFile_eq_runSource [Interpreter] {a : Arguments} (hmodule : nonEmpty? a.module = none) {source : String}
    (hp : Holds cur t p source) (b : Batch) :
    (runFile (disk cur) a b p).run t =
      (runSource (disk cur) a b p source (importName cur t p)).run t := by
  obtain ⟨bytes, hbytes, hsource, hskip⟩ := hp
  have hread := disk_read cur p t
  rw [hbytes] at hread
  have htext : sourceOf p (some bytes) = .ok source := by simp only [sourceOf, hsource]; rfl
  rw [runFile, run_then hread]
  simp only [htext, hskip, Bool.false_eq_true, if_false, hmodule]
  exact run_then ((looks_moduleName cur p).run_eq t)

/-- The head of a test module of a file, for a run in which no module is named. The test modules of the
file are planned under the name under which its classes are imported. The line that says what is tested
is one string on a line of its own if and only if the name of the file can stand in it as it is; and the
class is imported from names with dots between them if and only if the packages around the file, and the
file itself, are called by such names. -/
theorem header_whole_iff [Interpreter] {a : Arguments} (hmodule : nonEmpty? a.module = none)
    {source : String} (hp : Holds cur t p source) {n : Node} {c : Class}
    (hc : c ∈ Class.ofModule source (importName cur t p) n) (hname : Word.isName c.name = true) :
    (∀ b, (runFile (disk cur) a b p).run t =
      (runSource (disk cur) a b p source (importName cur t p)).run t) ∧
    ∃ (text : String) (rest : List String),
      let s := (Suite.plan (optionsOf a) p.name c).1
      s.emit (optionsOf a) = .ok text ∧
      (Outline.ofSource source = .ok n → ∃ ts ns,
        Generate.testModules source (importName cur t p) (optionsOf a) p.name = (.ok ts, ns) ∧
        ⟨c.name, Name.outputFile c.name, text⟩ ∈ ts) ∧
      text.toList = s.docLine.toList ++ '\n' ::
        (String.join (("" :: (s.imports.lines ++ rest)).map (· ++ "\n"))).toList ∧
      (s.DocWhole text ↔ Source.Quotable p.name) ∧
      s!"from {Suite.homeOf (importName cur t p)} import " ++ c.name ∈ s.imports.lines ∧
      (Word.isDotted (Suite.homeOf (importName cur t p)) = true ↔
        importParts cur t p = [""] ∨ ∀ w ∈ importParts cur t p, Word.isDotted w = true) := by
  obtain ⟨text, rest, hemit, htext⟩ := Suite.plan_text_eq (optionsOf a) p.name c
  have himport := Suite.from_mem_importsOf c.module c.name
    (Suite.plan (optionsOf a) p.name c).1.construction (Suite.plan (optionsOf a) p.name c).1.methods
  rw [Class.module_of_mem hc] at himport
  refine ⟨runFile_eq_runSource hmodule hp, text, rest, hemit,
    fun hn => Generate.exists_testModules hn hc hemit, htext, ?_, ?_,
    isDotted_importName_iff cur t p⟩
  · exact Suite.docWhole_iff (s := (Suite.plan (optionsOf a) p.name c).1) hname htext
  · change _ ∈ (Suite.importsOf c.module c.name _ _).lines
    rw [Class.module_of_mem hc]
    exact himport

/-! A package with a source whose name is a name, and one with quotes in it. -/

def library : FileTree :=
  [(["pkg"], .directory), (["pkg", "__init__.py"], .file "".toUTF8),
    (["pkg", "gate.py"], .file Sample.bare.toUTF8), (["gate.p\"\"\""], .file Sample.bare.toUTF8)]

def gateFile : Path := ⟨"", ["pkg", "gate.py"]⟩

def quotedFile : Path := ⟨"", ["gate.p\"\"\""]⟩

theorem holds_gateFile : Holds [] library gateFile Sample.bare :=
  ⟨_, rfl, by decide +kernel, by decide +kernel⟩

theorem holds_quotedFile : Holds [] library quotedFile Sample.bare :=
  ⟨_, rfl, by decide +kernel, by decide +kernel⟩

open scoped Interpreter in
theorem header_whole_gate :
    nonEmpty? Arguments.initial.module = none ∧ Holds [] library gateFile Sample.bare ∧
    ∃ n c, Outline.ofSource Sample.bare = .ok n ∧ Class.ofModule Sample.bare "pkg.gate" n = [c] ∧
      Word.isName c.name = true ∧
      ∃ text ts ns,
        Generate.testModules Sample.bare "pkg.gate" (optionsOf .initial) "gate.py" = (.ok ts, ns) ∧
        ⟨"Gate", Name.outputFile "Gate", text⟩ ∈ ts ∧
        (Suite.plan (optionsOf .initial) "gate.py" c).1.DocWhole text ∧
        "from pkg.gate import Gate" ∈ (Suite.plan (optionsOf .initial) "gate.py" c).1.imports.lines := by
  obtain ⟨n, c, hn, hclasses, hc⟩ := Sample.exists_class_bare "pkg.gate"
  have himport : importName [] library gateFile = "pkg.gate" := by decide +kernel
  have hmem : c ∈ Class.ofModule Sample.bare (importName [] library gateFile) n := by
    rw [himport, hclasses]
    exact List.mem_singleton.mpr rfl
  have hname : Word.isName c.name = true := by rw [hc]; decide
  have hquotable : Source.Quotable gateFile.name := ⟨by decide, by decide, ⟨_, rfl⟩⟩
  obtain ⟨-, text, -, -, hmodules, -, hwhole, hfrom, -⟩ :=
    header_whole_iff (a := .initial) rfl holds_gateFile hmem hname
  obtain ⟨ts, ns, hts, htext⟩ := hmodules hn
  rw [himport] at hts hfrom
  rw [hc] at htext hfrom
  exact ⟨rfl, holds_gateFile, n, c, hn, hclasses, hname, text, ts, ns, hts, htext, hwhole.mpr hquotable,
    hfrom⟩

open scoped Interpreter in
/-- The head of a test module is broken by quotes in the name of the source file. -/
theorem header_broken_by_quotes :
    ¬ ∀ (cur : Location) (a : Arguments) (t : FileTree) (p : Path) (source : String) (n : Node)
      (c : Class), nonEmpty? a.module = none → Holds cur t p source →
      Outline.ofSource source = .ok n → c ∈ Class.ofModule source (importName cur t p) n →
      Word.isName c.name = true →
      ∃ text, (Suite.plan (optionsOf a) p.name c).1.emit (optionsOf a) = .ok text ∧
        (Suite.plan (optionsOf a) p.name c).1.DocWhole text ∧
        Word.isDotted (Suite.homeOf (importName cur t p)) = true := by
  intro h
  obtain ⟨n, c, hn, hclasses, hc⟩ := Sample.exists_class_bare (importName [] library quotedFile)
  have hname : Word.isName c.name = true := by rw [hc]; decide
  obtain ⟨text, htext, hwhole, -⟩ := h [] .initial library quotedFile _ n c rfl holds_quotedFile hn
    (by rw [hclasses]; exact List.mem_singleton.mpr rfl) hname
  obtain ⟨text', rest, htext', hchars⟩ := Suite.plan_text_eq (optionsOf .initial) quotedFile.name c
  obtain rfl : text = text' := Except.ok.inj (htext.symm.trans htext')
  have hquotable : Source.Quotable quotedFile.name :=
    (Suite.docWhole_iff (s := (Suite.plan (optionsOf .initial) quotedFile.name c).1) hname hchars).mp hwhole
  exact hquotable.unclosed (by decide)

end Cli
end BranchCover
