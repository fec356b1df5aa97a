import BranchCover.Proofs.Emission

/-! Modules that a test module imports. The text of a value may name the module of streams, and a call
that makes a coroutine is run by another module; both are imported as a whole where they are needed,
unless the class under test comes from a module of the same name, whose names are taken instead. -/
namespace BranchCover

namespace Value

/-- A value stands in another one: it is that value, or stands in one of its items. -/
inductive Within (w : Value) : Value → Prop where
  | here : Within w w
  | item {items : List Value} {v : Value} : v ∈ items → Within w v → Within w (arrayOf items)

section Stubs

variable {name : String}

@[simp] theorem stub_within_objectStub {other : String} :
    (objectStub name).Within (objectStub other) ↔ name = other := by
  constructor
  · intro h
    cases h
    rfl
  · rintro rfl
    exact .here

@[simp] theorem stub_within_arrayOf {items : List Value} :
    (objectStub name).Within (arrayOf items) ↔ ∃ v ∈ items, (objectStub name).Within v := by
  constructor
  · intro h
    cases h with
    | item hv hwithin => exact ⟨_, hv, hwithin⟩
  · rintro ⟨v, hv, hwithin⟩
    exact .item hv hwithin

@[simp] theorem stub_not_within_number {n : Numeral} : ¬ (objectStub name).Within (number n) :=
  fun h => nomatch h

@[simp] theorem stub_not_within_text {t : Text} : ¬ (objectStub name).Within (text t) :=
  fun h => nomatch h

@[simp] theorem stub_not_within_boolean {b : Bool} : ¬ (objectStub name).Within (boolean b) :=
  fun h => nomatch h

@[simp] theorem stub_not_within_null : ¬ (objectStub name).Within null :=
  fun h => nomatch h

@[simp] theorem stub_not_within_unspecified : ¬ (objectStub name).Within unspecified :=
  fun h => nomatch h

end Stubs

/-- Somewhere in the value stands a stub whose text is a stream of bytes. -/
def NamesStreams (v : Value) : Prop :=
  ∃ name, (objectStub name).Within v ∧
    (objectStub name).sourceText = .ok "io.BytesIO(b'fakedata')"

theorem sourceText_eq_stream_iff {name : String} :
    (objectStub name).sourceText = .ok "io.BytesIO(b'fakedata')" ↔ name ∈ streamTypes := by
  have htext : (objectStub name).sourceText = .ok "io.BytesIO(b'fakedata')" ↔
      stubSource name = "io.BytesIO(b'fakedata')".toList := by
    constructor
    · intro h
      have hcs := congrArg String.toList (Except.ok.inj h)
      rwa [String.toList_ofList] at hcs
    · intro h
      simp only [sourceText, source, h]
      rfl
  rw [htext]
  unfold stubSource
  by_cases hstream : streamTypes.contains name = true
  · simp only [hstream, if_true, true_iff]
    exact List.contains_iff_mem.mp hstream
  · have hname : name ∉ streamTypes := fun h => hstream (List.contains_iff_mem.mpr h)
    simp only [hstream, hname, iff_false]
    split
    · contradiction
    · split
      · decide
      · split
        · decide
        · intro h
          -- a call of a class ends with its bracket, and the stream ends with a quote before it
          have hend := congrArg List.reverse h
          rw [List.reverse_append] at hend
          have hsecond := congrArg (·[1]?) hend
          revert hsecond
          simp

theorem needsIo_iff (v : Value) :
    v.needsIo = true ↔ ∃ name ∈ streamTypes, (objectStub name).Within v := by
  cases v with
  | objectStub name => simp [needsIo]
  | arrayOf items =>
    have hitems : ∀ x ∈ items, x.needsIo = true ↔ ∃ name ∈ streamTypes, (objectStub name).Within x :=
      fun x hx => needsIo_iff x
    rw [needsIo, anyNeedsIo_eq, List.any_eq_true]
    simp only [stub_within_arrayOf]
    constructor
    · rintro ⟨x, hx, hneeds⟩
      obtain ⟨name, hname, hwithin⟩ := (hitems x hx).mp hneeds
      exact ⟨name, hname, x, hx, hwithin⟩
    · rintro ⟨name, hname, x, hx, hwithin⟩
      exact ⟨x, hx, (hitems x hx).mpr ⟨name, hname, hwithin⟩⟩
  | number _ | text _ | boolean _ | null | unspecified => simp [needsIo]
termination_by sizeOf v
decreasing_by
  have := List.sizeOf_lt_of_mem hx
  simp
  omega

theorem needsIo_iff_namesStreams (v : Value) : v.needsIo = true ↔ v.NamesStreams := by
  rw [needsIo_iff]
  constructor
  · rintro ⟨name, hname, hwithin⟩
    exact ⟨name, hwithin, sourceText_eq_stream_iff.mpr hname⟩
  · rintro ⟨name, hwithin, htext⟩
    exact ⟨name, sourceText_eq_stream_iff.mp htext, hwithin⟩

end Value

namespace Imports

theorem import_not_mem_fromLines (i : Imports) (m : String) : "import " ++ m ∉ i.fromLines := by
  intro h
  obtain ⟨⟨n, names⟩, -, htext⟩ := List.mem_map.mp h
  change "from " ++ n ++ " import " ++ ", ".intercalate names = "import " ++ m at htext
  have hhead := congrArg (fun t : String => t.toList.head?) htext
  simp at hhead

/-- A module is imported as a whole exactly if no name is taken from it. -/
theorem import_mem_lines_iff {i : Imports} {m : String} (hm : m ≠ "pytest") :
    "import " ++ m ∈ i.lines ↔ (m, []) ∈ i := by
  have hplain : "import " ++ m ∈ i.plain.map (fun e => s!"import {e.1}") ↔ (m, []) ∈ i := by
    constructor
    · intro h
      obtain ⟨⟨n, names⟩, hn, htext⟩ := List.mem_map.mp h
      obtain rfl : n = m := (String.append_right_inj "import ").mp htext
      obtain ⟨hmem, hkept⟩ := List.mem_filter.mp hn
      have hnames : names = [] := List.isEmpty_iff.mp (Bool.and_eq_true_iff.mp hkept).1
      exact hnames ▸ hmem
    · intro h
      exact List.mem_map.mpr ⟨(m, []), List.mem_filter.mpr ⟨h, by simpa using hm⟩, rfl⟩
  have hblank : "import " ++ m ∉ (if !i.plain.isEmpty then [""] else []) := by
    split <;> simp
  have hpytest : "import " ++ m ∉
      (if i.any (·.1 == "pytest") then ["import pytest", ""] else []) := by
    have hne : "import " ++ m ≠ "import pytest" := fun h =>
      hm ((String.append_right_inj "import ").mp h)
    split <;> simp [hne]
  have hlines : i.lines = i.plain.map (fun e => s!"import {e.1}") ++
      ((if !i.plain.isEmpty then [""] else []) ++
        ((if i.any (·.1 == "pytest") then ["import pytest", ""] else []) ++ i.fromLines)) := rfl
  simp only [hlines, List.mem_append, hplain, hblank, hpytest, i.import_not_mem_fromLines m, or_false]

theorem mem_set_iff {i : Imports} (hkeys : (i.map Prod.fst).Nodup) {m k : String}
    {names new : List String} :
    (m, names) ∈ i.set k new ↔ m = k ∧ names = new ∨ m ≠ k ∧ (m, names) ∈ i := by
  induction i with
  | nil => simp [set]
  | cons e i ih =>
    obtain ⟨n, old⟩ := e
    obtain ⟨hn, hkeys⟩ := List.nodup_cons.mp hkeys
    by_cases hk : n = k
    · have hrest : (m, names) ∈ i → m ≠ n := by
        rintro h rfl
        have hmem := List.mem_map_of_mem (f := Prod.fst) h
        exact hn hmem
      subst hk
      simp only [set, beq_self_eq_true, if_true, List.mem_cons, Prod.mk.injEq]
      tauto
    · have hset : Imports.set ((n, old) :: i) k new = (n, old) :: Imports.set i k new := by
        simp [set, hk]
      rw [hset, List.mem_cons, ih hkeys, List.mem_cons, Prod.mk.injEq]
      by_cases hmn : m = n
      · subst hmn
        simp [hk]
      · simp [hmn]

/-- A name taken from a module is the only one if none was taken from it before. -/
theorem add_eq_set {i : Imports} (hplain : ∀ e ∈ i, e.2 = []) (module name : String) :
    i.add module name = i.set module [name] := by
  have hnone : i.names module = [] := by
    unfold names
    cases h : List.lookup module i with
    | none => rfl
    | some ns =>
      obtain ⟨before, after, rfl, -⟩ := List.lookup_eq_some_iff.mp h
      exact hplain (module, ns) (by simp)
  simp [add, hnone]

end Imports

namespace Scenario

theorem getLast?_inside (o : Options) (s : Scenario) (call : String) :
    (s.inside o call).getLast? =
      some (0, if s.invocation.awaited then s!"asyncio.run({call})" else call) := by
  simp [inside]

/-- The call of a scenario is written as the run of the coroutine that it makes. -/
def RunsCoroutine (o : Options) (s : Scenario) : Prop :=
  ∃ call, s.invocation.source = .ok call ∧
    (s.inside o call).getLast? = some (0, "asyncio.run(" ++ call ++ ")")

theorem awaited_iff_runsCoroutine (o : Options) {s : Scenario} (h : ∀ v ∈ s.values, v.Renders) :
    s.invocation.awaited = true ↔ s.RunsCoroutine o := by
  have hsource : s.invocation.source = .ok s.invocation.rendered :=
    Invocation.source_eq_rendered fun a ha => h _ (List.mem_append_left _ (List.mem_map_of_mem ha))
  constructor
  · intro hawaited
    refine ⟨_, hsource, ?_⟩
    rw [getLast?_inside, if_pos hawaited]
    rfl
  · rintro ⟨call, -, hlast⟩
    by_contra hawaited
    rw [getLast?_inside, if_neg hawaited] at hlast
    have htext : call = "asyncio.run(" ++ call ++ ")" := (Prod.mk.inj (Option.some.inj hlast)).2
    have hlength := congrArg String.length htext
    rw [String.length_append, String.length_append] at hlength
    have hopening : "asyncio.run(".length = 12 := by decide
    omega

end Scenario

namespace Suite

variable (module cls : String) (construction : Option Invocation) (methods : List MethodTests)

def wholeImports : Imports :=
  (if methods.any fun t => t.scenarios.any (·.invocation.awaited) then [("asyncio", [])] else []) ++
  (if (values construction methods).any Value.needsIo then [("io", [])] else []) ++ [("pytest", [])]

theorem wholeImports_plain : ∀ e ∈ wholeImports construction methods, e.2 = [] := by
  unfold wholeImports
  split <;> split <;> simp

theorem nodup_wholeImports : ((wholeImports construction methods).map Prod.fst).Nodup := by
  unfold wholeImports
  split <;> split <;> decide

def homeOf (module : String) : String :=
  if module == "" then "module" else module

theorem importsOf_eq_set : importsOf module cls construction methods =
    (wholeImports construction methods).set (homeOf module) [cls] :=
  Imports.add_eq_set (wholeImports_plain construction methods) _ _

/-- A module other than the test framework is imported as a whole exactly if it is needed and the class
under test comes from another one. -/
theorem import_mem_importsOf_iff {m : String} (hm : m ≠ "pytest") :
    "import " ++ m ∈ (importsOf module cls construction methods).lines ↔
      (m, []) ∈ wholeImports construction methods ∧ m ≠ homeOf module := by
  rw [Imports.import_mem_lines_iff hm, importsOf_eq_set,
    Imports.mem_set_iff (nodup_wholeImports construction methods)]
  simp [and_comm]

theorem ne_homeOf_iff {m : String} (hempty : m ≠ "") (hdefault : m ≠ "module") :
    m ≠ homeOf module ↔ module ≠ m := by
  unfold homeOf
  split
  · rename_i h
    simp [hdefault, eq_of_beq h, hempty.symm]
  · exact ne_comm

theorem import_io_mem_iff :
    "import io" ∈ (importsOf module cls construction methods).lines ↔
      (values construction methods).any Value.needsIo = true ∧ module ≠ "io" := by
  have hneeded : ("io", []) ∈ wholeImports construction methods ↔
      (values construction methods).any Value.needsIo = true := by
    unfold wholeImports
    generalize (methods.any fun t => t.scenarios.any (·.invocation.awaited)) = usesAsync
    generalize (values construction methods).any Value.needsIo = usesIo
    cases usesAsync <;> cases usesIo <;> simp
  have hiff := import_mem_importsOf_iff module cls construction methods (m := "io") (by decide)
  rw [hneeded, ne_homeOf_iff module (by decide) (by decide)] at hiff
  exact hiff

theorem import_asyncio_mem_iff :
    "import asyncio" ∈ (importsOf module cls construction methods).lines ↔
      methods.any (fun t => t.scenarios.any (·.invocation.awaited)) = true ∧
        module ≠ "asyncio" := by
  have hneeded : ("asyncio", []) ∈ wholeImports construction methods ↔
      methods.any (fun t => t.scenarios.any (·.invocation.awaited)) = true := by
    unfold wholeImports
    generalize (methods.any fun t => t.scenarios.any (·.invocation.awaited)) = usesAsync
    generalize (values construction methods).any Value.needsIo = usesIo
    cases usesAsync <;> cases usesIo <;> simp
  have hiff := import_mem_importsOf_iff module cls construction methods (m := "asyncio") (by decide)
  rw [hneeded, ne_homeOf_iff module (by decide) (by decide)] at hiff
  exact hiff

/-- The text of a plan begins with what it says of itself and its imports. A module for the streams that
its values name, or for the coroutines that its calls make, is imported as a whole if and only if there
are such values or calls and the class under test does not come from a module of the same name. -/
theorem needed_imports_written_iff (o : Options) (sourceName : String) (c : Class) :
    let s := (plan o sourceName c).1
    (∃ rest : List String, s.emit o = .ok (String.join
      ((s.docLine :: "" :: (s.imports.lines ++ rest)).map (· ++ "\n")))) ∧
    ("import io" ∈ s.imports.lines ↔
      (∃ v ∈ values s.construction s.methods, v.NamesStreams) ∧ c.module ≠ "io") ∧
    ("import asyncio" ∈ s.imports.lines ↔
      (∃ t ∈ s.methods, ∃ x ∈ t.scenarios, x.RunsCoroutine o) ∧ c.module ≠ "asyncio") := by
  intro s
  have hvalues : ∀ v ∈ values s.construction s.methods, v.Renders :=
    plan_values_render o sourceName c
  have himports : s.imports = importsOf c.module c.name s.construction s.methods := rfl
  obtain ⟨rest, hlines⟩ := s.textLines_eq o
  have hio : (values s.construction s.methods).any Value.needsIo = true ↔
      ∃ v ∈ values s.construction s.methods, v.NamesStreams := by
    simp only [List.any_eq_true, Value.needsIo_iff_namesStreams]
  have hasync : s.methods.any (fun t => t.scenarios.any (·.invocation.awaited)) = true ↔
      ∃ t ∈ s.methods, ∃ x ∈ t.scenarios, x.RunsCoroutine o := by
    simp only [List.any_eq_true]
    constructor
    · rintro ⟨t, ht, x, hx, hawaited⟩
      have hrenders : ∀ v ∈ x.values, v.Renders := fun v hv =>
        hvalues v (mem_values_of_scenario ht hx hv)
      exact ⟨t, ht, x, hx, (x.awaited_iff_runsCoroutine o hrenders).mp hawaited⟩
    · rintro ⟨t, ht, x, hx, hruns⟩
      have hrenders : ∀ v ∈ x.values, v.Renders := fun v hv =>
        hvalues v (mem_values_of_scenario ht hx hv)
      exact ⟨t, ht, x, hx, (x.awaited_iff_runsCoroutine o hrenders).mpr hruns⟩
  refine ⟨⟨rest, ?_⟩, ?_, ?_⟩
  · rw [← hlines, emit_eq_join o hvalues]
  · rw [himports, import_io_mem_iff, hio]
  · rw [himports, import_asyncio_mem_iff, hasync]

/-- A class of a module that has the name of the module of streams. -/
def streamed : Class :=
  Sample.holding "Gate" "io" "part" (.typeRef "BytesIO" Span.unknown)

/-- No module for streams is imported where a class of a module of the same name is given one. -/
theorem import_missing_for_namesake :
    ¬ ∀ (o : Options) (sourceName source module : String) (m : Node),
      ∀ c ∈ Class.ofModule source module m,
        (∃ v ∈ values (plan o sourceName c).1.construction (plan o sourceName c).1.methods,
          v.NamesStreams) →
        "import io" ∈ (plan o sourceName c).1.textLines o := by
  intro h
  have hc := Sample.holding_mem_ofModule "Gate" "io" "part" (.typeRef "BytesIO" Span.unknown)
  have hneeded : (values (plan .standard "" streamed).1.construction
      (plan .standard "" streamed).1.methods).any Value.needsIo = true := by decide +kernel
  obtain ⟨v, hv, hneeds⟩ := List.any_eq_true.mp hneeded
  have hwritten := h .standard "" "" "io" _ streamed hc
    ⟨v, hv, v.needsIo_iff_namesStreams.mp hneeds⟩
  exact absurd hwritten (by decide +kernel)

end Suite

end BranchCover
