import BranchCover.Cli.Run
import BranchCover.Proofs.Emission

/-! What a run on files does, deed by deed: what becomes of each file, and of each test module of a
file. The deeds alone decide what the run returns. This holds on any disk, so that the deeds are what
the run does and not only what it amounts to. -/
namespace BranchCover
namespace Generate

theorem fault?_of_unrendered {α : Type} {x : Except Unrenderable α} {e : Failure}
    (h : x.mapError Failure.rendering = .error e) : e.fault? = none := by
  cases x with
  | ok a => cases h
  | error u =>
    rw [← Except.error.inj h]
    rfl

variable [Interpreter]

/-- Only a source that cannot be read has no test modules. -/
theorem testModules_ok {source : String} {n : Node} (h : Outline.ofSource source = .ok n)
    (module : String) (o : Options) (sourceName : String) :
    ∃ ts ns, testModules source module o sourceName = (.ok ts, ns) := by
  have hemit : ∀ s ∈ (Class.ofModule source module n).map (fun c => (Suite.plan o sourceName c).1),
      ∃ t, testModule o s = .ok t := by
    intro s hs
    obtain ⟨c, -, rfl⟩ := List.mem_map.mp hs
    obtain ⟨text, htext⟩ :=
      Suite.emit_of_values_render o (Suite.plan_values_render o sourceName c)
    exact ⟨_, by rw [testModule, htext]; rfl⟩
  obtain ⟨ts, hts⟩ := mapM_ok hemit
  have hmap : ((Class.ofModule source module n).map (Suite.plan o sourceName)).map (·.1) =
      (Class.ofModule source module n).map fun c => (Suite.plan o sourceName c).1 := by
    simp [Function.comp_def]
  simp only [testModules, plans, h, hmap]
  exact ⟨ts, _, by simp only [Except.bind, hts]; rfl⟩

theorem testModules_error {source : String} {e : Outline.Failure}
    (h : Outline.ofSource source = .error e) (module : String) (o : Options) (sourceName : String) :
    testModules source module o sourceName = (.error (.outline e), []) := by
  simp only [testModules, plans, h]
  rfl

theorem notes_eq_nil_of_error {source module sourceName : String} {o : Options} {e : Failure}
    {ns : List Note} (h : testModules source module o sourceName = (.error e, ns)) : ns = [] := by
  cases ho : Outline.ofSource source with
  | error r =>
    rw [testModules_error ho] at h
    exact (Prod.mk.inj h).2.symm
  | ok n =>
    obtain ⟨ts, ns', hts⟩ := testModules_ok ho module o sourceName
    rw [hts] at h
    cases (Prod.mk.inj h).1

theorem notes_eq_nil_of_dump_fault {source module : String} {phase : Phase} {o : Options}
    {e : Failure} {ns : List Note} {f : Source.Fault}
    (h : dump source phase module o = (.error e, ns)) (hf : e.fault? = some f) : ns = [] := by
  cases phase with
  | syntaxTree => exact (Prod.mk.inj h).2.symm
  | classes =>
    cases ho : Outline.ofSource source with
    | error r =>
      simp only [dump, ho] at h
      exact (Prod.mk.inj h).2.symm
    | ok n =>
      simp only [dump, ho, Prod.mk.injEq] at h
      rw [fault?_of_unrendered h.1] at hf
      cases hf
  | scenarios =>
    cases ho : Outline.ofSource source with
    | error r =>
      simp only [dump, plans, ho] at h
      exact (Prod.mk.inj h).2.symm
    | ok n =>
      simp only [dump, plans, ho, Prod.mk.injEq, Except.bind] at h
      rw [fault?_of_unrendered h.1] at hf
      cases hf

theorem fileName_of_mem {source module sourceName : String} {o : Options} {ts : List TestModule}
    {ns : List Note} (h : testModules source module o sourceName = (.ok ts, ns)) :
    ∀ m ∈ ts, m.fileName = Name.outputFile m.className := by
  intro m hm
  simp only [testModules, Prod.mk.injEq] at h
  obtain ⟨suites, -, hts⟩ := bind_eq_ok.mp h.1
  obtain ⟨s, -, hs⟩ := exists_of_mem_mapM (mapError_eq_ok.mp hts) m hm
  obtain ⟨text, -, htext⟩ := bind_eq_ok.mp hs
  obtain rfl := pure_eq_ok.mp htext
  rfl

end Generate

theorem Name.isTest_outputFile (cls : String) : (Path.mk "" [outputFile cls]).isTest = true := by
  simp [Path.isTest, Path.name, outputFile]

theorem Name.outputFile_ne_up (cls : String) : outputFile cls ≠ ".." := by
  intro h
  have htest := isTest_outputFile cls
  rw [h] at htest
  exact absurd htest (by decide)

namespace Cli

open Generate (TestModule Failure)

/-- What a run does about a file, or about one of the test modules of a file. -/
inductive Deed where
  /-- The file cannot be opened. -/
  | unopened (source : Path)
  /-- The bytes of the file are no text. -/
  | undecoded (source : Path)
  /-- The file asks to be passed over. -/
  | skipped (source : Path)
  /-- The text of the file is no source. -/
  | refused (source : Path) (fault : Source.Fault)
  | dumped (source : Path) (notes : List Note) (tree : Json)
  /-- The file is planned; what is done about its test modules comes next. -/
  | planned (source : Path) (notes : List Note)
  | printed (source : Path) (module : TestModule)
  /-- The path of the module was taken before, for the source `first`. -/
  | repeated (source : Path) (module : TestModule) (target first : Path)
  /-- The module is to be written, which fails. -/
  | unwritten (source : Path) (module : TestModule) (target : Path)
  | wrote (source : Path) (module : TestModule) (target : Path)

namespace Deed

/-- The file that a deed is the first one about. -/
def file? : Deed → Option Path
  | unopened p | undecoded p | skipped p | refused p _ | dumped p _ _ | planned p _ => some p
  | printed .. | repeated .. | unwritten .. | wrote .. => none

def output? : Deed → Option String
  | printed _ t => some t.text
  | _ => none

/-- The path that is taken, with the source that it is taken for. -/
def claim? : Deed → Option (Path × Path)
  | unwritten p _ target | wrote p _ target => some (target, p)
  | _ => none

def complaint? : Deed → Option String
  | unopened p => some s!"error: cannot open '{p.text}'"
  | undecoded p => some s!"error: invalid utf-8 in '{p.text}'"
  | refused p f => some (faultLine p f)
  | repeated p t target first =>
    some (s!"error: '{target.text}' for {t.className} in {p.text} already written from " ++ first.text)
  | unwritten _ _ target => some s!"error: cannot write '{target.text}'"
  | _ => none

def remarks (d : Deed) : List Remark :=
  match d with
  | skipped p => [.note (.skipped p.text)]
  | dumped _ ns _ | planned _ ns => ns.map .note
  | wrote _ _ target => [.note (.wrote target.text)]
  | _ => d.complaint?.toList.map .error

def addDump (dumps : List (String × Json)) : Deed → List (String × Json)
  | dumped p _ j => Json.put dumps p.text j
  | _ => dumps

end Deed

/-- The state of a run once some deeds are done. -/
def Batch.afterAll (b : Batch) (ds : List Deed) : Batch where
  code := if ds.any (·.complaint?.isSome) then 1 else b.code
  dumps := ds.foldl Deed.addDump b.dumps
  outputs := b.outputs ++ ds.filterMap Deed.output?
  written := b.written ++ ds.filterMap Deed.claim?
  remarks := b.remarks ++ ds.flatMap Deed.remarks

@[simp] theorem Batch.afterAll_nil (b : Batch) : b.afterAll [] = b := by
  simp [afterAll]

theorem Batch.afterAll_append (b : Batch) (xs ys : List Deed) :
    b.afterAll (xs ++ ys) = (b.afterAll xs).afterAll ys := by
  by_cases hx : xs.any (·.complaint?.isSome) <;> by_cases hy : ys.any (·.complaint?.isSome) <;>
    simp [afterAll, List.any_append, hx, hy]

def Batch.after (b : Batch) : Deed → Batch
  | .unopened p => b.failed s!"error: cannot open '{p.text}'"
  | .undecoded p => b.failed s!"error: invalid utf-8 in '{p.text}'"
  | .skipped p => b.notes [.skipped p.text]
  | .refused p f => b.failed (faultLine p f)
  | .dumped p ns j => { b.notes ns with dumps := Json.put b.dumps p.text j }
  | .planned _ ns => b.notes ns
  | .printed _ t => { b with outputs := b.outputs ++ [t.text] }
  | .repeated p t target first => b.failed
    (s!"error: '{target.text}' for {t.className} in {p.text} already written from " ++ first.text)
  | .unwritten p _ target => Batch.failed { b with written := b.written ++ [(target, p)] }
    s!"error: cannot write '{target.text}'"
  | .wrote p _ target =>
    Batch.notes { b with written := b.written ++ [(target, p)] } [.wrote target.text]

theorem Batch.afterAll_singleton (b : Batch) (d : Deed) : b.afterAll [d] = b.after d := by
  cases d <;>
    simp [after, afterAll, failed, notes, Deed.complaint?, Deed.output?, Deed.claim?, Deed.remarks,
      Deed.addDump]

theorem Batch.afterAll_cons (b : Batch) (d : Deed) (ds : List Deed) :
    b.afterAll (d :: ds) = (b.after d).afterAll ds := by
  rw [← b.afterAll_singleton d]
  exact b.afterAll_append [d] ds

/-- The end of a run that does some deeds, and then either stops for a failure or is done. -/
def Batch.ending (b : Batch) (r : List Deed × Option Failure) : Except Failure Batch :=
  match r.2 with
  | none => .ok (b.afterAll r.1)
  | some e => .error e

/-- What is done about a source that has no result: an error in it is told, all else stops the run. -/
def failureDeeds (source : Path) (e : Failure) : List Deed × Option Failure :=
  match e.fault? with
  | some f => ([.refused source f], none)
  | none => ([], some e)

theorem Batch.ending_of_fault (b : Batch) (p : Path) {e : Failure} {f : Source.Fault}
    (h : e.fault? = some f) : b.ending (failureDeeds p e) = .ok (b.failed (faultLine p f)) := by
  simp [failureDeeds, h, ending, afterAll_singleton, after]

theorem Batch.ending_of_no_fault (b : Batch) (p : Path) {e : Failure} (h : e.fault? = none) :
    b.ending (failureDeeds p e) = .error e := by
  simp [failureDeeds, h, ending]

section Program

variable {m : Type → Type} [Monad m]

/-- The deeds about test modules, when some paths are taken already. -/
def moduleDeeds (d : Disk m) (a : Arguments) (source : Path) :
    (taken : List (Path × Path)) → List TestModule → m (List Deed)
  | _, [] => pure []
  | taken, t :: ts =>
    if a.stdout then do
      let rest ← moduleDeeds d a source taken ts
      pure (.printed source t :: rest)
    else
      let target := targetOf a source t.fileName
      match taken.lookup target with
      | some first => do
        let rest ← moduleDeeds d a source taken ts
        pure (.repeated source t target first :: rest)
      | none => do
        let worked ← d.write target t.text.toUTF8
        let rest ← moduleDeeds d a source (taken ++ [(target, source)]) ts
        pure ((if worked then .wrote source t target else .unwritten source t target) :: rest)

section

variable [LawfulMonad m] (d : Disk m) (a : Arguments)

theorem afterAll_map_cons (b : Batch) (x : Deed) (ds : m (List Deed)) :
    b.afterAll <$> (do let rest ← ds; pure (x :: rest)) = (b.after x).afterAll <$> ds := by
  have hcons : (fun rest => b.afterAll (x :: rest)) = (b.after x).afterAll :=
    funext (b.afterAll_cons x)
  simp only [bind_pure_comp, Functor.map_map, hcons]

theorem writeAll_eq (source : Path) (b : Batch) (ts : List TestModule) :
    writeAll d a source b ts = b.afterAll <$> moduleDeeds d a source b.written ts := by
  -- Over all states, since each module meets the paths that those before it took.
  induction ts generalizing b with
  | nil => simp [writeAll, moduleDeeds]
  | cons t ts ih =>
    cases hout : a.stdout with
    | true =>
      simp only [writeAll, moduleDeeds, hout, if_true, afterAll_map_cons, Batch.after, ih]
    | false =>
      cases hl : b.written.lookup (targetOf a source t.fileName) with
      | some first =>
        have hw : (b.after (.repeated source t (targetOf a source t.fileName) first)).written =
            b.written := rfl
        simp only [writeAll, moduleDeeds, hout, Bool.false_eq_true, if_false, hl, afterAll_map_cons]
        rw [← hw, ← ih]
        rfl
      | none =>
        simp only [writeAll, moduleDeeds, hout, Bool.false_eq_true, if_false, hl]
        rw [map_bind]
        congr 1
        funext worked
        rw [afterAll_map_cons]
        cases worked with
        | true =>
          simp only [if_true]
          rw [ih]
          rfl
        | false =>
          simp only [Bool.false_eq_true, if_false]
          rw [ih]
          rfl

end

variable [Interpreter]

/-- The deeds about a file with a source to be processed. -/
def sourceDeeds (d : Disk m) (a : Arguments) (taken : List (Path × Path)) (p : Path)
    (source module : String) : m (List Deed × Option Failure) :=
  match a.stopAt with
  | some phase =>
    match Generate.dump source phase module (optionsOf a) with
    | (.ok j, ns) => pure ([.dumped p ns j], none)
    | (.error e, _) => pure (failureDeeds p e)
  | none =>
    match Generate.testModules source module (optionsOf a) p.name with
    | (.ok ts, ns) => do
      let ds ← moduleDeeds d a p taken ts
      pure (.planned p ns :: ds, none)
    | (.error e, _) => pure (failureDeeds p e)

def fileDeeds (d : Disk m) (a : Arguments) (taken : List (Path × Path)) (p : Path) :
    m (List Deed × Option Failure) := do
  match ← d.read p with
  | none => pure ([.unopened p], none)
  | some bytes =>
    match String.fromUTF8? bytes with
    | none => pure ([.undecoded p], none)
    | some source =>
      if Generate.isSkipped source then pure ([.skipped p], none)
      else
        let module ← match nonEmpty? a.module with
          | some name => pure name
          | none => moduleName d p
        sourceDeeds d a taken p source module

/-- The deeds of a run on files, up to a failure that stops it. -/
def deeds (d : Disk m) (a : Arguments) :
    (taken : List (Path × Path)) → List Path → m (List Deed × Option Failure)
  | _, [] => pure ([], none)
  | taken, p :: ps => do
    let (ds, stop) ← fileDeeds d a taken p
    match stop with
    | some e => pure (ds, some e)
    | none =>
      let (rest, stop) ← deeds d a (taken ++ ds.filterMap Deed.claim?) ps
      pure (ds ++ rest, stop)

variable [LawfulMonad m] (d : Disk m) (a : Arguments)

theorem runSource_eq (b : Batch) (p : Path) (source module : String) :
    runSource d a b p source module = b.ending <$> sourceDeeds d a b.written p source module := by
  cases hstop : a.stopAt with
  | some phase =>
    simp only [runSource, sourceDeeds, hstop]
    rcases hr : Generate.dump source phase module (optionsOf a) with ⟨r, ns⟩
    cases r with
    | ok j =>
      have hd : (b.notes ns).dumps = b.dumps := rfl
      simp [Batch.ending, Batch.afterAll_singleton, Batch.after, hd]
    | error e =>
      cases hf : e.fault? with
      | some f =>
        have hns : ns = [] := Generate.notes_eq_nil_of_dump_fault hr hf
        have hb : b.notes ns = b := by simp [hns, Batch.notes]
        simp [hb, hf, b.ending_of_fault p hf]
      | none => simp [hf, b.ending_of_no_fault p hf]
  | none =>
    simp only [runSource, sourceDeeds, hstop]
    rcases hr : Generate.testModules source module (optionsOf a) p.name with ⟨r, ns⟩
    cases r with
    | ok ts =>
      have hw : (b.notes ns).written = b.written := rfl
      have hcons : (fun ds => b.ending (.planned p ns :: ds, none)) =
          fun ds => Except.ok ((b.notes ns).afterAll ds) := by
        funext ds
        simp only [Batch.ending]
        rw [b.afterAll_cons]
        rfl
      simp only [bind_pure_comp, writeAll_eq, Functor.map_map, hw, hcons]
    | error e =>
      have hns : ns = [] := Generate.notes_eq_nil_of_error hr
      have hb : b.notes ns = b := by simp [hns, Batch.notes]
      cases hf : e.fault? with
      | some f => simp [hb, hf, b.ending_of_fault p hf]
      | none => simp [hf, b.ending_of_no_fault p hf]

theorem runFile_eq (b : Batch) (p : Path) :
    runFile d a b p = b.ending <$> fileDeeds d a b.written p := by
  simp only [runFile, fileDeeds, map_bind]
  congr 1
  funext content
  cases content with
  | none =>
    simp [sourceOf, Batch.ending, Batch.afterAll_singleton, Batch.after, throw, throwThe,
      MonadExceptOf.throw]
  | some bytes =>
    cases hs : String.fromUTF8? bytes with
    | none =>
      simp [sourceOf, hs, Batch.ending, Batch.afterAll_singleton, Batch.after, throw, throwThe,
        MonadExceptOf.throw]
    | some source =>
      have hsource : sourceOf p (some bytes) = .ok source := by simp only [sourceOf, hs]; rfl
      by_cases hskip : Generate.isSkipped source = true
      · simp [hsource, hs, hskip, Batch.ending, Batch.afterAll_singleton, Batch.after]
      · simp only [hsource, hs, hskip, if_false, Bool.false_eq_true]
        cases hmod : nonEmpty? a.module with
        | some module =>
          simp only [pure_bind]
          exact runSource_eq d a b p source module
        | none =>
          simp only [runSource_eq, map_bind]

/-- What files do to a run is what their deeds do. -/
theorem runFiles_eq (b : Batch) (ps : List Path) :
    runFiles d a b ps = b.ending <$> deeds d a b.written ps := by
  induction ps generalizing b with
  | nil => simp [runFiles, deeds, Batch.ending]
  | cons p ps ih =>
    simp only [runFiles, deeds, runFile_eq, map_bind, bind_map_left]
    congr 1
    funext r
    obtain ⟨ds, stop⟩ := r
    cases stop with
    | some e => simp [Batch.ending]
    | none =>
      have hw : (b.afterAll ds).written = b.written ++ ds.filterMap Deed.claim? := rfl
      have happ : (fun r : List Deed × Option Failure => b.ending (ds ++ r.1, r.2)) =
          (b.afterAll ds).ending := by
        funext r
        simp only [Batch.ending, b.afterAll_append]
      simp only [Batch.ending, ih, hw]
      simp only [bind_pure_comp, Functor.map_map, happ]

end Program
end Cli
end BranchCover
