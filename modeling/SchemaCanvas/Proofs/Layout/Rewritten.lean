import Mathlib.Data.List.DropRight
import SchemaCanvas.Proofs.Layout.Names
import SchemaCanvas.Proofs.Layout.RoundTrip
import SchemaCanvas.Proofs.Layout.Writable
import SchemaCanvas.Proofs.Number.Rounded

/-!
# Blocks that are read, written and read again

Whatever a block holds, its diagrams have names that fit between the brackets of a header, and
entries that fit into a line (`Block.fromLines_readText`). So they can be written and are read back,
with their coordinates rounded to whole pixels; but a header with nothing but blanks between its
brackets gives an empty name, and the header with the empty name is no header any more. Diagrams
that were read come back from their block exactly when none of them has the empty name
(`Block.readText_write_iff`).
-/

namespace SchemaCanvas

/-! ## What every diagram that is read is like -/

/-- A stripped text has no blanks to strip. -/
theorem Text.strip_strip (cs : List Char) : strip (strip cs) = strip cs := by
  have hstart : stripStart (strip cs) = strip cs := by
    refine dropWhile_eq_self ?_
    cases hs : strip cs with
    | nil => rfl
    | cons c rest =>
      have hhead : (stripStart cs).head? = some c := by
        obtain ⟨more, hmore⟩ := hs ▸ strip_prefix_stripStart cs
        rw [← hmore, List.cons_append, List.head?_cons]
      have hc := List.head?_dropWhile_not isBlank cs
      rw [← stripStart, hhead] at hc
      simpa using hc
  have hend : stripEnd (strip cs) = strip cs := List.rdropWhile_idempotent isBlank (stripStart cs)
  rw [strip, hstart, hend]

/-- Whether the nearest whole number, if there is one, is a number of double precision. So it is of
every real number, and of the whole numbers that are of double precision themselves. -/
def Number.Real (a : Number) : Prop :=
  ∀ m, a.round = .ok m → Binary64.Representable (m.natAbs * Binary64.unitsPerOne)

/-- The nearest whole number of a real one is of double precision. -/
theorem Number.real_real (x : Binary64) : (Number.real x).Real :=
  fun _ hm => Binary64.representable_round hm

/-- A whole number below 2⁵³ is of double precision itself. -/
theorem Number.real_whole {n : Int} (hn : n.natAbs < 2 ^ 53) : (Number.whole n).Real := by
  intro m hm
  cases hm
  exact Binary64.representable_whole hn

/-- Whether both coordinates are of double precision. -/
def Position.Real (p : Position) : Prop :=
  p.x.Real ∧ p.y.Real

/-- Whether an entry has no coordinates or two of double precision. -/
def Entry.Real : Entry → Prop
  | .wildcard _ => True
  | .table _ x y => (x = none ∧ y = none) ∨ ∃ a b, x = some a ∧ y = some b ∧ Position.Real ⟨a, b⟩

/-- What every entry that is read from a line is like. -/
structure Entry.FromLine (e : Entry) : Prop where
  fits : Name.Fits e.label.toList
  qualified : e.Qualified
  real : e.Real

/-- What every diagram that is read from lines is like. -/
structure Diagram.FromLines (d : Diagram) : Prop where
  strip_name : Text.strip d.name.toList = d.name.toList
  bracket : ']' ∉ d.name.toList
  fits : Name.Fits d.name.toList
  entries : ∀ e ∈ d.entries, e.FromLine

namespace Line

/-- A header has its name between brackets, with no closing bracket in it and blanks around it. -/
theorem header?_eq_some {cs name : List Char} (h : header? cs = some name) :
    ∃ inside, cs = '[' :: (inside ++ [']']) ∧ ']' ∉ inside ∧ name = Text.strip inside := by
  unfold header? at h
  split at h
  · next cs =>
    dsimp only at h
    split at h
    · next hc =>
      refine ⟨cs.takeWhile (· ≠ ']'), ?_, fun hm => ?_, (Option.some.inj h).symm⟩
      · rw [← hc.2, List.takeWhile_append_dropWhile]
      · exact absurd (List.all_eq_true.1 List.all_takeWhile _ hm) (by decide)
    · cases h
  · cases h

/-- The name of a diagram is what stands between the brackets of its header, without the blanks
around it. -/
theorem toList_of_read {cs : List Char} {name : String} (h : read cs = .header name) :
    ∃ inside, cs = '[' :: (inside ++ [']']) ∧ ']' ∉ inside ∧ name.toList = Text.strip inside := by
  unfold read at h
  split at h
  · next found hfound =>
    rw [← Line.header.inj h, String.toList_ofList]
    exact header?_eq_some hfound
  · split at h <;> cases h

/-- An entry is like those that are read from lines when the line has fitting names. -/
theorem fromLine_of_read {cs : List Char} {e : Entry} (h : read cs = .entry (.ok e))
    (hcs : Name.Fits cs) : e.FromLine := by
  have hfits := fits_of_read h hcs
  obtain ⟨schema, target, trailing, -, he⟩ := parts?_of_read h
  rcases entryOfParts_eq_ok he with ⟨-, rfl⟩ | ⟨table, name, -, hname, rfl | ⟨x, y, rfl⟩⟩
  · exact ⟨hfits, trivial, trivial⟩
  · exact ⟨hfits, by simp [Entry.Qualified, hname], .inl ⟨rfl, rfl⟩⟩
  · have hreal : Position.Real ⟨.real x, .real y⟩ := ⟨Number.real_real x, Number.real_real y⟩
    exact ⟨hfits, by simp [Entry.Qualified, hname], .inr ⟨_, _, rfl, rfl, hreal⟩⟩

/-- Lines with fitting names keep every diagram like those that are read. -/
theorem keeps_fromLines : Keeps Name.Fits fun name d => d.name = name ∧ d.FromLines where
  header := by
    intro text name htext hread
    obtain ⟨inside, rfl, hbracket, hname⟩ := toList_of_read hread
    have hinside : Text.strip inside <:+: '[' :: (inside ++ [']']) :=
      (Text.infix_strip inside).trans ⟨['['], [']'], rfl⟩
    refine ⟨rfl, ?_, ?_, ?_, List.forall_mem_nil _⟩
    · rw [hname, Text.strip_strip]
    · rw [hname]
      exact fun hm => hbracket ((Text.infix_strip inside).subset hm)
    · rw [hname]
      exact htext.part hinside
  entry := by
    intro text d e htext hread hd
    refine ⟨rfl, hd.2.strip_name, hd.2.bracket, hd.2.fits, fun e' he' => ?_⟩
    rcases List.mem_append.1 he' with he' | he'
    · exact hd.2.entries e' he'
    · rw [List.mem_singleton.1 he']
      exact fromLine_of_read hread htext

end Line

/-- Whether every diagram stands under its own name and is like those that are read. -/
def DiagramSet.FromLines (D : DiagramSet) : Prop :=
  D.Forall fun name d => d.name = name ∧ d.FromLines

/-- All diagrams that are read from a text are like that. -/
theorem Block.fromLines_readText {text : String} {D : DiagramSet} {ws : List Warning}
    (h : readText text = .ok (some D, ws)) : D.FromLines :=
  forall_readText Line.keeps_fromLines h

/-- The names of a diagram that is like those that are read close no comment. -/
theorem Diagram.FromLines.avoids {d : Diagram} (h : d.FromLines) : d.Avoids Block.commentClose :=
  ⟨h.fits.2, fun e he => (h.entries e he).fits.2⟩

/-- A diagram that is like those that are read is legible unless its name is empty. -/
theorem Diagram.FromLines.legible {d : Diagram} (h : d.FromLines) (hne : d.name ≠ "") :
    d.Legible where
  name_ne := hne
  strip_name := h.strip_name
  bracket := h.bracket
  newline_name := h.fits.1
  newline_label := fun e he => (h.entries e he).fits.1
  avoids := h.avoids
  qualified := fun e he => (h.entries e he).qualified

/-- Each diagram of a set that is like those that are read is so itself. -/
theorem DiagramSet.FromLines.of_mem {D : DiagramSet} (h : D.FromLines) {d : Diagram}
    (hd : d ∈ D.values) : d.FromLines := by
  obtain ⟨item, hi, rfl⟩ := List.mem_map.1 hd
  exact (Registry.Forall.of_mem_items h hi).2

/-- The names of the diagrams are the keys that they stand under. -/
theorem DiagramSet.FromLines.map_name_values {D : DiagramSet} (h : D.FromLines) :
    D.values.map Diagram.name = D.keys := by
  rw [Registry.values, Registry.keys, List.map_map]
  exact List.map_congr_left fun item hi => (Registry.Forall.of_mem_items h hi).1

/-- Diagrams with names can be told apart in a block. -/
theorem DiagramSet.FromLines.legible {D : DiagramSet} (h : D.FromLines) (hne : "" ∉ D.keys)
    {d : Diagram} (hd : d ∈ D.values) : d.Legible :=
  (h.of_mem hd).legible fun hempty => hne (h.map_name_values ▸ List.mem_map.2 ⟨d, hd, hempty⟩)

/-- How diagrams come back that are written and read. -/
def DiagramSet.Reread (D D' : DiagramSet) : Prop :=
  List.Forall₂ (fun item item' => item'.1 = item.1 ∧ Diagram.Reread item.2 item'.2) D.items D'.items

/-- Diagrams under their own names come back under them. -/
theorem DiagramSet.FromLines.reread {D D' : DiagramSet} (h : D.FromLines) {ds' : List Diagram}
    (hds : List.Forall₂ Diagram.Reread D.values ds')
    (hitems' : D'.items = ds'.map fun d => (d.name, d)) : D.Reread D' := by
  have hitems : D.items = D.values.map fun d => (d.name, d) := by
    rw [Registry.values, List.map_map]
    refine (List.map_id D.items).symm.trans (List.map_congr_left fun item hi => ?_)
    exact Prod.ext (Registry.Forall.of_mem_items h hi).1.symm rfl
  rw [DiagramSet.Reread, hitems, hitems', List.forall₂_map_left_iff, List.forall₂_map_right_iff]
  exact hds.imp fun d d' hdd => ⟨hdd.1, hdd⟩

/-! ## Rounding to whole pixels -/

/-- The nearest whole number, where there is one. -/
def Number.rounded (a : Number) : Number :=
  match a.round with
  | .ok m => .whole m
  | .error _ => a

/-- The entry with its coordinates rounded. -/
def Entry.rounded : Entry → Entry
  | .wildcard schema => .wildcard schema
  | .table name x y => .table name (x.map Number.rounded) (y.map Number.rounded)

/-- The diagram with all coordinates rounded. -/
def Diagram.rounded (d : Diagram) : Diagram :=
  ⟨d.name, d.entries.map Entry.rounded⟩

/-- The diagrams with all coordinates rounded. -/
def DiagramSet.rounded (D : DiagramSet) : DiagramSet :=
  D.mapItems fun _ d => d.rounded

/-- A coordinate is read back as the whole number that it was rounded to. -/
theorem Number.Real.same_rounded {a : Number} (h : a.Real) {m : Int} (hm : a.round = .ok m) :
    (Number.real (Line.wholeValue m)).same a.rounded = true := by
  have hrounded : a.rounded = .whole m := by rw [Number.rounded, hm]
  rw [hrounded]
  exact Line.same_wholeValue (h m hm) rfl

/-- An entry with coordinates of double precision comes back rounded. -/
theorem Entry.Real.same_rounded {e e' : Entry} (h : e.Real) (hr : e.Reread e') :
    e'.same e.rounded = true := by
  cases hr with
  | wildcard schema => exact decide_eq_true rfl
  | unplaced hp =>
    rcases h with ⟨rfl, rfl⟩ | ⟨a, b, rfl, rfl, -⟩
    · simp [Entry.rounded, Entry.same, sameNumber?]
    · cases hp
  | placed hx hy =>
    rcases h with ⟨hnone, -⟩ | ⟨a, b, ha, hb, hreal⟩
    · cases hnone
    · cases ha
      cases hb
      simp [Entry.rounded, Entry.same, sameNumber?, hreal.1.same_rounded hx,
        hreal.2.same_rounded hy]

/-- Diagrams come back rounded. -/
theorem DiagramSet.Reread.same_rounded {D D' : DiagramSet} (h : D.Reread D') (hD : D.FromLines) :
    D'.same D.rounded = true := by
  have heqv : (D'.items.map id).isEqv (D.items.map fun item => (item.1, item.2.rounded))
      (fun i j => i.1 = j.1 && i.2.same j.2) = true := by
    refine isEqv_of_forall₂ h fun item hi item' ⟨hname, hreread⟩ => ?_
    have hentries := (Registry.Forall.of_mem_items hD hi).2.entries
    have hsame : item'.2.same item.2.rounded = true :=
      hreread.same_map fun e he e' hee => (hentries e he).real.same_rounded hee
    simp [hname, hsame]
  rwa [List.map_id] at heqv

/-- Rounding the coordinates keeps the diagrams under their names. -/
theorem DiagramSet.keys_rounded (D : DiagramSet) : D.rounded.keys = D.keys := by
  rw [Registry.keys, DiagramSet.rounded, Registry.mapItems, List.map_map]
  rfl

/-- Diagrams that say the same have the same names. -/
theorem DiagramSet.keys_of_same {D D' : DiagramSet} (h : D'.same D = true) : D'.keys = D.keys := by
  have hkeys : ∀ {items items' : List (String × Diagram)},
      (items'.isEqv items fun i j => i.1 = j.1 && i.2.same j.2) = true →
      items'.map Prod.fst = items.map Prod.fst := by
    intro items items' heqv
    induction items' generalizing items with
    | nil =>
      cases items with
      | nil => rfl
      | cons => cases heqv
    | cons item' items' ih =>
      cases items with
      | nil => cases heqv
      | cons item items =>
        simp only [List.isEqv, Bool.and_eq_true, decide_eq_true_eq] at heqv
        rw [List.map_cons, List.map_cons, heqv.1.1, ih heqv.2]
  exact hkeys h

namespace Block

variable {strict : Bool} {D : DiagramSet} {block : String}

/-! ## Diagrams with names -/

/-- Diagrams that were read come back from their block, rounded, when none has an empty name. -/
theorem readText_write_rounded (h : write strict D = .ok block) (hD : D.FromLines)
    (hne : "" ∉ D.keys) :
    ∃ D', readText block = .ok (some D', []) ∧ D'.same D.rounded = true := by
  obtain ⟨ds', D', hds, hitems, hread⟩ :=
    readText_write h (fun _ => hD.legible hne) (hD.map_name_values ▸ D.nodup_keys)
  obtain ⟨ws, hread, hw⟩ := hread block [] (List.append_nil _).symm
  rw [hw rfl] at hread
  exact ⟨D', hread, (hD.reread hds hitems).same_rounded hD⟩

/-! ## The empty name -/

/-- No written line opens a diagram with an empty name. -/
theorem read_ne_empty_header {d : Diagram} (hd : d.FromLines) {lines : List String}
    (h : d.lines strict = .ok lines) {line : String} (hline : line ∈ lines) :
    Line.read (Text.strip line.toList) ≠ .header "" := by
  obtain ⟨entries, rfl, hentries⟩ := Diagram.lines_eq_ok h
  rcases List.mem_cons.1 hline with rfl | hline
  · by_cases hname : d.name = ""
    · -- Between the brackets of a header there must be something, if only a blank.
      have hignored : Line.read (Text.strip ("[" ++ "" ++ "]").toList) = .ignored := rfl
      rw [hname, hignored]
      nofun
    · rw [Line.read_header hname hd.strip_name hd.bracket]
      exact fun he => hname (Line.header.inj he)
  · obtain ⟨e, he, hwritten⟩ := forall₂_exists_of_mem_right hentries hline
    obtain ⟨e', -, hread⟩ := Entry.read_line hwritten (hd.entries e he).qualified
    rw [hread]
    nofun

/-- From a written block no diagram with an empty name is read. -/
theorem empty_not_mem_keys_readText (h : write strict D = .ok block) (hD : D.FromLines)
    {D' : DiagramSet} {ws : List Warning} (hread : readText block = .ok (some D', ws)) :
    "" ∉ D'.keys := by
  obtain ⟨parts, hparts, hlocate⟩ := locate_of_write h fun d hd => (hD.of_mem hd).avoids
  have hlocate := hlocate []
  rw [List.append_nil] at hlocate
  have hlines := lines_writtenContent hparts (fun d hd => (hD.of_mem hd).fits.1)
    fun d hd e he => ((hD.of_mem hd).entries e he).fits.1
  have hheader : ∀ text ∈ Text.lines (writtenContent parts),
      Line.read (Text.strip text) ≠ .header "" := by
    have hnil : Line.read (Text.strip []) ≠ .header "" := nofun
    intro text ht
    rw [hlines] at ht
    rcases List.mem_cons.1 ht with rfl | ht
    · exact hnil
    rcases List.mem_append.1 ht with ht | ht
    · rcases mem_body ht with rfl | ⟨lines, hl, line, hline, rfl⟩
      · exact hnil
      · obtain ⟨d, hd, hwritten⟩ := forall₂_exists_of_mem_right hparts hl
        exact read_ne_empty_header (hD.of_mem hd) hwritten hline
    · exact List.mem_singleton.1 ht ▸ hnil
  have hkeeps : Line.Keeps (fun text => Line.read text ≠ .header "") fun name _ => name ≠ "" :=
    ⟨fun hne hread hempty => hne (hempty ▸ hread), fun _ _ hname => hname⟩
  obtain ⟨l, more, hl, hcontent, -⟩ := readText_eq_ok.1 hread
  rw [hlocate] at hl
  obtain rfl := Option.some.inj hl
  intro hmem
  obtain ⟨d, hd⟩ := Registry.exists_get? hmem
  exact forall_readContent hkeeps hcontent hheader "" d hd rfl

/-- Diagrams that were read can be written, and come back from their block as they are, rounded to
whole pixels, when none of them has an empty name, and only then. -/
theorem readText_write_iff {text : String} {ws : List Warning}
    (h : readText text = .ok (some D, ws))
    (hfinite : ∀ d ∈ D.values, ∀ e ∈ d.entries, e.Finite) :
    ∃ block, write false D = .ok block ∧
      ((∃ D', readText block = .ok (some D', []) ∧ D'.same D.rounded = true) ↔ "" ∉ D.keys) := by
  have hD := fromLines_readText h
  obtain ⟨block, hblock⟩ : ∃ block, write false D = .ok block :=
    exists_write fun d hd e he => Entry.exists_line (hfinite d hd e he) nofun
  refine ⟨block, hblock, fun ⟨D', hread, hsame⟩ => ?_, readText_write_rounded hblock hD⟩
  rw [← D.keys_rounded, ← DiagramSet.keys_of_same hsame]
  exact empty_not_mem_keys_readText hblock hD hread

/-- A block in which the second header has only a blank between its brackets. -/
def unnamedBlock : String :=
  "/* @erd-pets\n[main]\ns.a 1 2\n[ ]\ns.b 3 4\n*/"

/-- The diagrams of the block. -/
def unnamedDiagrams : DiagramSet :=
  .ofDiagrams
    [⟨"main", [.table "s.a" (some (.real (Line.wholeValue 1))) (some (.real (Line.wholeValue 2)))]⟩,
     ⟨"", [.table "s.b" (some (.real (Line.wholeValue 3))) (some (.real (Line.wholeValue 4)))]⟩]

/-- The block is read, its diagrams are written, and what is written is not read as the same
diagrams, although all coordinates are finite. -/
theorem unnamedBlock_not_reread :
    readText unnamedBlock = .ok (some unnamedDiagrams, []) ∧
      (∀ d ∈ unnamedDiagrams.values, ∀ e ∈ d.entries, e.Finite) ∧
      ∃ block, write false unnamedDiagrams = .ok block ∧
        ¬ ∃ D', readText block = .ok (some D', []) ∧ D'.same unnamedDiagrams.rounded = true := by
  have hread : readText unnamedBlock = .ok (some unnamedDiagrams, []) := by decide +kernel
  have hfinite : ∀ d ∈ unnamedDiagrams.values, ∀ e ∈ d.entries, e.Finite := by decide +kernel
  obtain ⟨block, hblock, hiff⟩ := readText_write_iff hread hfinite
  exact ⟨hread, hfinite, block, hblock, fun hsame => hiff.1 hsame (by decide +kernel)⟩

end Block

end SchemaCanvas
