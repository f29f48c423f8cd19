import SchemaCanvas.Proofs.CommandLine.Layout
import SchemaCanvas.Proofs.Picture.Filled
import SchemaCanvas.Proofs.Picture.Settled

/-!
# Laying a file out again

The text that is printed as the layout of a file holds a settled diagram in its block
(`CommandLine.layoutText_eq_ok`, `CommandLine.settled_of_layoutDiagrams`), and is read as it was
written (`Loaded.exists_ofText_save`). Laying out a diagram that is settled already, in a text whose
block is what the diagrams are written as, prints the text as it is
(`CommandLine.layoutText_of_settled`). So a layout that is laid out again stays the same, and no
generator is called for it (`CommandLine.layoutText_layoutText`).
-/

namespace SchemaCanvas

variable {σ : Type} {g : Generator σ}

/-! ## Files that are saved or refreshed -/

/-- A file with tables whose block is saved can be read: its schema is the same, and its diagrams
are those that were saved. -/
theorem Loaded.exists_ofText_save {text saved : String} {diagrams : DiagramSet}
    (h : Block.save text diagrams = .ok saved) (hfit : diagrams.Fit)
    (hsome : ∃ name, name ∈ diagrams.keys)
    (htables : (Schema.ofText text).1.tables.items ≠ [])
    (hblock : ∀ l, Block.locate text.toList = some l → Block.Commented text.toList l) :
    ∃ file, Loaded.ofText saved = .ok file ∧ file.schema = (Schema.ofText text).1 ∧
      diagrams.Reread file.diagrams := by
  obtain ⟨-, hsame, -⟩ :=
    Block.save_keeps_script h (fun d hd => (hfit.fromLines.of_mem hd).avoids) hblock
  obtain ⟨diagrams', ws, hread, hreread⟩ := Block.readText_save h hfit
  have hnonempty : diagrams'.items ≠ [] := by
    intro hnil
    obtain ⟨name, hname⟩ := hsome
    rw [← hreread.keys_eq, Registry.keys, hnil] at hname
    cases hname
  obtain ⟨file, hfile, hschema, rfl⟩ := Loaded.exists_ofText (hsame ▸ htables) hread hnonempty
  exact ⟨file, hfile, hschema.trans hsame, hreread⟩

/-- What is refreshed is a diagram of the set, for the schema of the text. -/
theorem Refreshed.exists_of_ofText {name text : String} {diagrams : DiagramSet} {s t : σ}
    {refreshed : Refreshed} (h : Refreshed.ofText name text diagrams g s = .ok refreshed t) :
    ∃ schema warnings picture updated, Schema.ofText? text = .ok (schema, warnings) ∧
      diagrams.refresh name schema g s = .ok (picture, updated) t := by
  rw [Refreshed.ofText] at h
  cases hschema : Schema.ofText? text with
  | error cause =>
    rw [hschema] at h
    cases h
  | ok read =>
    rw [hschema] at h
    dsimp only at h
    cases hrefresh : diagrams.refresh name read.1 g s with
    | error cause u =>
      rw [hrefresh] at h
      cases h
    | ok answer u =>
      rw [hrefresh] at h
      cases h
      exact ⟨read.1, read.2, answer.1, answer.2, rfl, hrefresh⟩

namespace CommandLine

variable {text saved name : String} {diagrams : DiagramSet} {s t : σ}

/-- The text that is printed has the diagrams of the layout in its block, filled in. -/
theorem layoutText_eq_ok (h : layoutText g name text diagrams s = .ok saved t) :
    ∃ schema warnings d positions u filled, Schema.ofText? text = .ok (schema, warnings) ∧
      diagrams.get? name = some d ∧ (d.select schema).place g s = .ok positions u ∧
      (layoutDiagrams schema diagrams name d positions).fill g u = .ok filled t ∧
      Block.save text filled = .ok saved := by
  obtain ⟨refreshed, u, hrefreshed, -⟩ := bind_eq_ok.1 h
  obtain ⟨schema, warnings, picture, updated, hschema, hrefresh⟩ :=
    Refreshed.exists_of_ofText hrefreshed
  obtain ⟨d, positions, hd, hplace, -⟩ := DiagramSet.refresh_eq_ok hrefresh
  rw [Diagram.select_prune] at hplace
  rcases layoutText_of_place hschema hd hplace with
    ⟨text', v, hsaved, hprinted⟩ | ⟨cause, v, -, hprinted⟩
  · rw [h] at hprinted
    cases hprinted
    obtain ⟨filled, hfill, hsave⟩ := DiagramSet.saveFilled_eq_ok.1 hsaved
    exact ⟨schema, warnings, d, positions, u, filled, hschema, hd, hplace, hfill, hsave⟩
  · rw [h] at hprinted
    cases hprinted

/-- A text whose diagrams are written as they stand in its block is printed as it is when the
diagram is settled, and the state of the generator stays. -/
theorem layoutText_of_settled {schema : Schema} {warnings : List Warning}
    (hschema : Schema.ofText? text = .ok (schema, warnings)) {d : Diagram}
    (hd : diagrams.get? name = some d) (hsettled : d.Settled schema)
    (hsave : Block.save text diagrams = .ok text) (g : Generator σ) (s : σ) :
    layoutText g name text diagrams s = .ok text s := by
  have hplace := hsettled.place_eq g s
  have hsame : layoutDiagrams schema diagrams name d ((d.select schema).complete ∅) = diagrams := by
    rw [layoutDiagrams, hsettled.prune_eq, hsettled.materialize_place hplace,
      Registry.insert_of_get? hd]
  obtain ⟨block, hblock, -⟩ := Block.save_eq_ok.1 hsave
  have hsaved : diagrams.saveFilled text g s = .ok text s :=
    DiagramSet.saveFilled_eq_ok.2 ⟨diagrams, DiagramSet.fill_of_write hblock g s, hsave⟩
  rcases layoutText_of_place hschema hd hplace with
    ⟨text', u, hok, hprinted⟩ | ⟨cause, u, herror, -⟩
  · rw [hsame, hsaved] at hok
    cases hok
    exact hprinted
  · rw [hsame, hsaved] at herror
    cases herror

/-- The diagrams of a layout fit when those of the file do and the names of its tables, and the
generator gives places of double precision only. -/
theorem fit_layoutDiagrams (hdiagrams : diagrams.Fit) {schema : Schema} (hfits : schema.Fits)
    (hkeyed : Keyed schema.tables) (hg : g.Gives Position.Real) {d : Diagram}
    (hd : diagrams.get? name = some d) {positions : Positions}
    (hplace : (d.select schema).place g s = .ok positions t) :
    (layoutDiagrams schema diagrams name d positions).Fit := by
  have hdiagram := (hdiagrams.fromLines name d hd).2
  have hpositions := hdiagram.fromLines_place hfits hkeyed hg hplace
  exact hdiagrams.insert hd rfl ((hdiagram.prune schema).materialize hpositions)

/-- The diagram that was laid out is settled, and stays so when the others are filled in. -/
theorem settled_of_layoutDiagrams {schema : Schema} {d : Diagram} {positions : Positions}
    (hplace : (d.select schema).place g s = .ok positions t) {filled : DiagramSet} {u v : σ}
    (hfill : (layoutDiagrams schema diagrams name d positions).fill g u = .ok filled v) :
    ∃ laidOut, filled.get? name = some laidOut ∧ laidOut.Settled schema := by
  have hpruned : ((d.prune schema).select schema).place g s = .ok positions t := by
    rw [Diagram.select_prune, hplace]
  have hsettled := Diagram.settled_materialize (fun _ => Diagram.contains_of_mem_prune) hpruned
  obtain ⟨laidOut, w, x, hget, hlaidOut⟩ :=
    DiagramSet.get?_of_fill hfill (Registry.get?_insert_self ..)
  rw [Diagram.fill_of_stored fun _ => hsettled.mem_stored] at hlaidOut
  cases hlaidOut
  exact ⟨_, hget, hsettled⟩

/-- **Laying a file out twice is laying it out once.** When the names of a file fit into lines, its
block is a comment for SQL, and the generator gives places of double precision only, as whole pixels
below 2^53 are: the layout that is printed can be laid out again, and is printed as it is, whatever
generator there is now. The generator is not called. -/
theorem layoutText_layoutText {file : Loaded} (hfile : Loaded.ofText text = .ok file)
    (hfits : file.schema.Fits) (hne : "" ∉ file.diagrams.keys)
    (hblock : ∀ l, Block.locate text.toList = some l → Block.Commented text.toList l)
    (hg : g.Gives Position.Real) (h : layoutText g name text file.diagrams s = .ok saved t) :
    ∃ file', Loaded.ofText saved = .ok file' ∧
      ∀ {τ : Type} (g' : Generator τ) (u : τ) (calls : List Call),
        layoutText g' name saved file'.diagrams u = .ok saved u ∧
          layoutText g'.recorded name saved file'.diagrams (u, calls) = .ok saved (u, calls) := by
  obtain ⟨schema, warnings, d, positions, u, filled, hread, hd, hplace, hfill, hsave⟩ :=
    layoutText_eq_ok h
  obtain ⟨hschema, htables, -⟩ := Loaded.ofText_eq_ok hfile
  obtain rfl : file.schema = schema := by rw [hschema, (Schema.ofText?_eq_ok.1 hread).1]
  have hkeyed : Keyed file.schema.tables := hschema ▸ Schema.keyed_ofText text
  have hdiagrams : file.diagrams.Fit := ⟨Loaded.fromLines_ofText hfile hfits, hne⟩
  have hfilled := (fit_layoutDiagrams hdiagrams hfits hkeyed hg hd hplace).of_fill hg hfill
  obtain ⟨laidOut, hlaidOut, hsettled⟩ := settled_of_layoutDiagrams hplace hfill
  obtain ⟨file', hfile', hsame, hreread⟩ := Loaded.exists_ofText_save hsave hfilled
    ⟨name, Registry.mem_keys_of_get? hlaidOut⟩ (hschema ▸ htables) hblock
  rw [← hschema] at hsame
  obtain ⟨laidOut', hlaidOut', hsettled'⟩ := hreread.exists_get? hlaidOut
  have hprinted : ∀ {τ : Type} (g' : Generator τ) (u : τ),
      layoutText g' name saved file'.diagrams u = .ok saved u :=
    layoutText_of_settled (Loaded.schema_ofText hfile') hlaidOut'
      (hsame ▸ hsettled.of_reread hsettled') (Block.save_reread hsave hfilled.fromLines hreread)
  exact ⟨file', hfile', fun g' u calls => ⟨hprinted g' u, hprinted g'.recorded (u, calls)⟩⟩

/-! The second diagram of a file has a table that is gone, a table without a place that it places
further down, and a wildcard; the first one a table that only filling in places. -/

/-- The text of the file. -/
def draftScript : String :=
  "/* @erd-pets\n[main]\na.x\n\n[second]\nb.y\nc.gone 5 6\na.*\nb.y 1 2\n*/\n" ++
    "CREATE TABLE a.x ();\nCREATE TABLE b.y ();\n"

/-- The text with the layout of the second diagram. -/
def draftScriptLaidOut : String :=
  "/* @erd-pets\n[main]\na.x 7 8\n\n[second]\nb.y 1 2\na.*\na.x 7 8\nb.y 1 2\n*/\n" ++
    "CREATE TABLE a.x ();\nCREATE TABLE b.y ();\n"

/-- The script gets its layout once; laying it out again, with any generator, gives the same text
and asks for no place. -/
theorem layoutText_draftScriptLaidOut :
    let g := Generator.constant ⟨.whole 7, .whole 8⟩
    ∃ file, Loaded.ofText draftScript = .ok file ∧ file.schema.Fits ∧ "" ∉ file.diagrams.keys ∧
      (∀ l, Block.locate draftScript.toList = some l → Block.Commented draftScript.toList l) ∧
      g.Gives Position.Real ∧
      layoutText g "second" draftScript file.diagrams () = .ok draftScriptLaidOut () ∧
      ∃ file', Loaded.ofText draftScriptLaidOut = .ok file' ∧
        ∀ (g' : Generator Unit) (calls : List Call),
          layoutText g' "second" draftScriptLaidOut file'.diagrams () = .ok draftScriptLaidOut () ∧
          layoutText g'.recorded "second" draftScriptLaidOut file'.diagrams ((), calls)
            = .ok draftScriptLaidOut ((), calls) := by
  intro g
  have hrun : (Loaded.ofText draftScript).toOption.map (fun file =>
      (decide file.schema.Fits, decide ("" ∉ file.diagrams.keys),
        layoutText g "second" draftScript file.diagrams ()))
          = some (true, true, .ok draftScriptLaidOut ()) := by decide +kernel
  have hlocate : Block.locate draftScript.toList = some ⟨[], "/* @erd-pets".toList,
      "\n[main]\na.x\n\n[second]\nb.y\nc.gone 5 6\na.*\nb.y 1 2\n".toList,
      "\nCREATE TABLE a.x ();\nCREATE TABLE b.y ();\n".toList⟩ := by decide +kernel
  have hblock : ∀ l, Block.locate draftScript.toList = some l →
      Block.Commented draftScript.toList l := by
    intro l hl
    obtain rfl := Option.some.inj (hlocate.symm.trans hl)
    exact ⟨[], ⟨.blockComment,
        "/* @erd-pets\n[main]\na.x\n\n[second]\nb.y\nc.gone 5 6\na.*\nb.y 1 2\n*/".toList⟩,
      (Sql.Lexeme.scan draftScript.toList).tail, by decide +kernel, rfl, rfl⟩
  have hg : g.Gives Position.Real :=
    Generator.gives_constant ⟨Number.real_whole (by decide), Number.real_whole (by decide)⟩
  cases hload : Loaded.ofText draftScript with
  | error cause =>
    rw [hload] at hrun
    cases hrun
  | ok file =>
    simp only [hload, Except.toOption, Option.map_some, Option.some.injEq, Prod.mk.injEq,
      decide_eq_true_eq] at hrun
    obtain ⟨hfits, hne, hprint⟩ := hrun
    obtain ⟨file', hfile', hagain⟩ := layoutText_layoutText hload hfits hne hblock hg hprint
    exact ⟨file, rfl, hfits, hne, hblock, hg, hprint, file', hfile', fun g' => hagain g' ()⟩

end CommandLine

end SchemaCanvas
