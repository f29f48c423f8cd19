import SchemaCanvas.CommandLine.Run
import SchemaCanvas.Proofs.File.Loaded
import SchemaCanvas.Proofs.Picture.Pruned
import SchemaCanvas.Proofs.Sync.Answered

/-!
# Printing and writing a layout

A layout is printed by refreshing a diagram of the file and preparing it for saving
(`CommandLine.layoutText_of_place`), and written by a session that loads the file, selects the
diagram, refreshes it and saves. The session writes the places of the tables into the diagram before
the refresh drops the tables that are gone, and writes them once more to save, but comes to the same
diagrams. So what is written is what is printed (`CommandLine.layoutSession_agrees`).
-/

namespace SchemaCanvas

variable {σ : Type} {g : Generator σ}

/-- Places that are written into a diagram already are prepared for saving as they are. -/
theorem DiagramSet.prepareSave_of_materialize (diagrams : DiagramSet) (text name : String)
    (d : Diagram) (positions : Positions) (g : Generator σ) (s : σ) :
    DiagramSet.prepareSave text (diagrams.insert name (d.materialize positions)) name positions g s
      = DiagramSet.saveFilled (diagrams.insert name (d.materialize positions)) text g s := by
  have hget := Registry.get?_insert_self diagrams name (d.materialize positions)
  have hcommit : DiagramSet.commit (diagrams.insert name (d.materialize positions)) name positions s
      = .ok (diagrams.insert name (d.materialize positions)) s := by
    unfold commit
    rw [bind_of_ok (find_eq_ok.2 ⟨hget, rfl⟩), Diagram.materialize_materialize,
      Registry.insert_insert]
    rfl
  unfold prepareSave prepare saveFilled
  rw [bind_assoc]
  exact bind_of_ok hcommit

namespace CommandLine

open Session

/-- The diagrams of a file with one of them pruned and the places of its tables written into it. -/
def layoutDiagrams (schema : Schema) (diagrams : DiagramSet) (name : String) (d : Diagram)
    (positions : Positions) : DiagramSet :=
  diagrams.insert name ((d.prune schema).materialize positions)

variable {text name : String} {d : Diagram} {positions : Positions}

/-- The text that is printed has these diagrams in its block, each table of which has been given a
place. -/
theorem layoutText_of_place {schema : Schema} {warnings : List Warning}
    (hschema : Schema.ofText? text = .ok (schema, warnings)) {diagrams : DiagramSet}
    (hd : diagrams.get? name = some d) {s t : σ}
    (hplace : (d.select schema).place g s = .ok positions t) :
    let saved := (layoutDiagrams schema diagrams name d positions).saveFilled text g t
    (∃ text' u, saved = .ok text' u ∧ layoutText g name text diagrams s = .ok text' u) ∨
      ∃ cause u, saved = .error cause u ∧
        layoutText g name text diagrams s = .error (.layout cause) u := by
  intro saved
  have hcontains : ∀ table ∈ positions.keys, schema.contains table = true := fun table ht =>
    Diagram.contains_of_mem_select ((Selection.mem_keys_place hplace table).1 ht)
  have hpruned : ((d.prune schema).select schema).place g s = .ok positions t := by
    rw [Diagram.select_prune, hplace]
  have hrefresh : diagrams.refresh name schema g s = .ok (Picture.draw schema positions,
      layoutDiagrams schema diagrams name d positions) t := by
    unfold DiagramSet.refresh
    rw [bind_of_ok (DiagramSet.find_eq_ok.2 ⟨hd, rfl⟩)]
    exact bind_of_ok hpruned
  have hrefreshed : Refreshed.ofText name text diagrams g s
      = .ok ⟨schema, Picture.draw schema positions,
          layoutDiagrams schema diagrams name d positions, Warning.byLine warnings⟩ t := by
    simp only [Refreshed.ofText, hschema, hrefresh]
  have hprepared : DiagramSet.prepareSave text (layoutDiagrams schema diagrams name d positions)
      name (Picture.draw schema positions).positions g t = saved := by
    rw [Picture.positions_draw hcontains]
    exact DiagramSet.prepareSave_of_materialize diagrams text name _ positions g t
  cases hsaved : saved with
  | ok text' u =>
    refine .inl ⟨text', u, rfl, (bind_of_ok hrefreshed).trans ?_⟩
    dsimp only
    rw [hprepared, hsaved]
  | error cause u =>
    refine .inr ⟨cause, u, rfl, (bind_of_ok hrefreshed).trans ?_⟩
    dsimp only
    rw [hprepared, hsaved]

/-- The session that writes a layout comes to the same diagrams, and then saves. -/
theorem layoutSession_of_place {g : Generator Unit} (hg : g.Total) {file : Loaded}
    (hfile : Loaded.ofText text = .ok file) (hd : file.diagrams.get? name = some d)
    (hplace : (d.select file.schema).place g () = .ok positions ()) :
    ∃ s : Session, s.Shows name ∧ s.pending = none ∧ s.text = text ∧
      s.Commits (layoutDiagrams file.schema file.diagrams name d positions) ∧
      layoutSession g name text (Session.start, ())
        = (startSave g >>= fun _ => finishWrite .written) (s, ()) := by
  have hname := Registry.mem_keys_of_get? hd
  have hschema := (Loaded.ofText_eq_ok hfile).1
  have hcontains : ∀ table ∈ positions.keys, file.schema.contains table = true := fun table ht =>
    Diagram.contains_of_mem_select ((Selection.mem_keys_place hplace table).1 ht)
  have hpositions := Picture.positions_draw hcontains
  -- The session loads the file and shows its first diagram.
  obtain ⟨first, ⟨⟩, hfirst⟩ := DiagramSet.exists_resolve
    (headD_mem (Loaded.keys_ne_nil hfile) defaultDiagramName) file.schema hg ()
  let s₁ : Session := { Session.start.counted with pending := some (.load 1) }
  have hstart : startLoad (Session.start, ()) = .ok () (s₁, ()) := rfl
  have hload := finishRead_of_load (s := s₁) rfl hfile hfirst
  -- It turns to the diagram, whose tables it places.
  let s₂ : Session :=
    { (({ s₁ with pending := none } : Session).takingOver text file).showing first with
      phase := .loaded }
  have hresolve : file.diagrams.resolve name file.schema g ()
      = .ok (Picture.draw file.schema positions) () := by
    unfold DiagramSet.resolve
    rw [bind_of_ok (DiagramSet.find_eq_ok.2 ⟨hd, rfl⟩), bind_of_ok hplace]
    rfl
  have hselect := select_of_leaves (s := s₂) ⟨nofun, rfl⟩ hname
    (.inr ⟨fun hphase => by cases hphase <;> contradiction, rfl⟩) hresolve
  -- It refreshes the diagram, with these places written into it.
  let s₃ : Session := (s₂.counted.turningTo name file.diagrams).showing
    (Picture.draw file.schema positions)
  let s₄ : Session := s₃.relabelled 3 (some (.refresh 3 name))
  have hbegin : startRefresh (s₃, ()) = .ok () (s₄, ()) := rfl
  have hcommits : s₄.Commits (file.diagrams.insert name (d.materialize positions)) :=
    ⟨d, hd, congrArg (fun p => file.diagrams.insert name (d.materialize p)) hpositions.symm⟩
  have hrefresh := finishRead_of_refresh (s := s₄) rfl hcommits
    (Loaded.schema_ofText hfile)
    (DiagramSet.refresh_insert_materialize (fun _ => hschema ▸ Schema.mem_tablesIn_schemaOf)
      file.diagrams name hplace g ())
  -- The places on the canvas are written into the refreshed diagram already.
  refine ⟨_, ⟨?_, rfl⟩, rfl, rfl, ?_,
    (bind_of_ok hstart).trans ((bind_of_ok hload).trans ((bind_of_ok hselect).trans
      ((bind_of_ok hbegin).trans (bind_of_ok hrefresh))))⟩
  · show (if _ then s₄.phase else .dirty) ≠ .unloaded
    split <;> nofun
  · refine ⟨_, Registry.get?_insert_self .., ?_⟩
    show _ = (layoutDiagrams file.schema file.diagrams name d positions).insert name
      (((d.prune file.schema).materialize positions).materialize
        (Picture.draw file.schema positions).positions)
    rw [hpositions, Diagram.materialize_materialize]
    exact (Registry.insert_insert ..).symm

/-- **Printing and writing a layout agree.** Whatever diagram of a file is asked for, and whatever
generator that answers every call places its tables: the text that is printed is the text that the
session writes, or both fail with the same cause. -/
theorem layoutSession_agrees {g : Generator Unit} (hg : g.Total) {text : String} {file : Loaded}
    (hfile : Loaded.ofText text = .ok file) {name : String} (hname : name ∈ file.diagrams.keys) :
    (∃ saved s, layoutText g name text file.diagrams () = .ok saved () ∧
        layoutSession g name text (Session.start, ()) = .ok saved (s, ())) ∨
      ∃ cause s, layoutText g name text file.diagrams () = .error cause () ∧
        layoutSession g name text (Session.start, ()) = .error (.file cause) (s, ()) := by
  obtain ⟨d, hd⟩ := Registry.exists_get? hname
  obtain ⟨positions, ⟨⟩, hplace⟩ := (d.select file.schema).exists_place hg ()
  obtain ⟨s, hshows, hidle, htext, hcommits, hsession⟩ := layoutSession_of_place hg hfile hd hplace
  have hprint := layoutText_of_place (Loaded.schema_ofText hfile) hd hplace
  have hwrite := save_of_commits (g := g) (t := ()) hshows hidle hcommits
  rw [htext] at hwrite
  rw [hsession]
  rcases hprint with ⟨printed, ⟨⟩, hsaved, hprinted⟩ | ⟨cause, ⟨⟩, hsaved, hprinted⟩
  · rw [hsaved] at hwrite
    rcases hwrite with ⟨written, _, s', hok, hwritten⟩ | ⟨_, _, herror, -⟩
    · cases hok
      exact .inl ⟨printed, s', hprinted, hwritten⟩
    · cases herror
  · rw [hsaved] at hwrite
    rcases hwrite with ⟨_, _, _, hok, -⟩ | ⟨cause', _, herror, hwritten⟩
    · cases hok
    · cases herror
      exact .inr ⟨.layout cause, _, hprinted, hwritten⟩

/-! The second diagram of a file has entries of a table that is gone and a table without a place,
which it places further down too. -/

/-- The text of the file. -/
def staleScript : String :=
  "/* @erd-pets\n[main]\na.*\n\n[second]\nb.y\nc.gone 5 6\na.*\nb.y 1 2\nb.y 3 4\n*/\n" ++
    "CREATE TABLE a.x ();\nCREATE TABLE b.y ();\n"

/-- The text with the layout of the second diagram. -/
def staleScriptLaidOut : String :=
  "/* @erd-pets\n[main]\na.*\n\n[second]\nb.y 3 4\na.*\na.x 7 8\nb.y 3 4\nb.y 3 4\n*/\n" ++
    "CREATE TABLE a.x ();\nCREATE TABLE b.y ();\n"

/-- The layout of the second diagram of the script is printed and written as the same text. -/
theorem layoutSession_staleScript :
    let g := Generator.constant ⟨.whole 7, .whole 8⟩
    ∃ file, Loaded.ofText staleScript = .ok file ∧ "second" ∈ file.diagrams.keys ∧
      layoutText g "second" staleScript file.diagrams () = .ok staleScriptLaidOut () ∧
      ∃ s, layoutSession g "second" staleScript (Session.start, ())
        = .ok staleScriptLaidOut (s, ()) := by
  intro g
  have hrun : (Loaded.ofText staleScript).toOption.map (fun file =>
      (decide ("second" ∈ file.diagrams.keys), layoutText g "second" staleScript file.diagrams ()))
        = some (true, .ok staleScriptLaidOut ()) := by decide +kernel
  cases hload : Loaded.ofText staleScript with
  | error cause =>
    rw [hload] at hrun
    cases hrun
  | ok file =>
    rw [hload, Except.toOption, Option.map_some, Option.some.injEq, Prod.mk.injEq,
      decide_eq_true_eq] at hrun
    obtain ⟨hname, hprint⟩ := hrun
    rcases layoutSession_agrees (Generator.total_constant _) hload hname with
      ⟨saved, s, hprinted, hwritten⟩ | ⟨cause, s, hprinted, -⟩
    · rw [hprint] at hprinted
      cases hprinted
      exact ⟨file, rfl, hname, hprint, s, hwritten⟩
    · rw [hprint] at hprinted
      cases hprinted

end CommandLine

end SchemaCanvas
