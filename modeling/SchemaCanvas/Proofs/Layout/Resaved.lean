import SchemaCanvas.Proofs.Layout.Rewritten
import SchemaCanvas.Proofs.Layout.Spliced

/-!
# Saved texts that are read and saved again

What is saved in a text can be read from it (`Block.readText_save`). The diagrams come back with
their coordinates rounded, and the rounded coordinates are written as they were, so saving what was
read writes the same text (`DiagramSet.Reread.save`).
-/

namespace SchemaCanvas

/-! ## Lines that are written again -/

/-- A whole number of double precision is written as it was read. -/
theorem Line.round_wholeValue {m : Int}
    (h : Binary64.Representable (m.natAbs * Binary64.unitsPerOne)) :
    (Number.real (Line.wholeValue m)).round = .ok m :=
  Number.round_of_units (Line.units?_wholeValue h)

/-- An entry that was read has the line that it was read from. -/
theorem Entry.Reread.line_eq {e e' : Entry} (hr : e.Reread e') (h : e.Real) :
    e'.line true = e.line true := by
  cases hr with
  | wildcard schema => rfl
  | unplaced hp =>
    rcases h with ⟨rfl, rfl⟩ | ⟨a, b, rfl, rfl, -⟩
    · rfl
    · cases hp
  | @placed name x y m n hx hy =>
    rcases h with ⟨hnone, -⟩ | ⟨a, b, ha, hb, hreal⟩
    · cases hnone
    · cases ha
      cases hb
      have hx' := Line.round_wholeValue (hreal.1 m hx)
      have hy' := Line.round_wholeValue (hreal.2 n hy)
      simp only [Entry.line, Position.line, hx, hy, hx', hy']

/-- Entries that are written alike one by one are written alike together. -/
theorem Entry.lines_congr {strict : Bool} {es es' : List Entry}
    (h : List.Forall₂ (fun e e' => Entry.line strict e' = Entry.line strict e) es es') :
    Entry.lines strict es' = Entry.lines strict es := by
  induction h with
  | nil => rfl
  | cons he _ ih => rw [Entry.lines, Entry.lines, he, ih]

/-- Diagrams that are written alike one by one are written alike together. -/
theorem Block.sections_congr {strict : Bool} {ds ds' : List Diagram}
    (h : List.Forall₂ (fun d d' => Diagram.lines strict d' = Diagram.lines strict d) ds ds') :
    Block.sections strict ds' = Block.sections strict ds := by
  induction h with
  | nil => rfl
  | cons hd _ ih => rw [Block.sections, Block.sections, hd, ih]

/-- A diagram that was read has the lines that it was read from. -/
theorem Diagram.Reread.lines_eq {d d' : Diagram} (hr : d.Reread d') (h : d.FromLines) :
    d'.lines true = d.lines true := by
  have hreal : ∀ e ∈ d.entries, e.Real := fun e he => (h.entries e he).real
  have hlines : List.Forall₂ (fun e e' => Entry.line true e' = Entry.line true e) d.entries
      d'.entries :=
    (List.forall₂_and_left _ _).2 ⟨hreal, hr.2⟩ |>.imp fun _ _ hboth => hboth.2.line_eq hboth.1
  rw [Diagram.lines, Diagram.lines, Entry.lines_congr hlines, hr.1]

/-! ## Sets of diagrams -/

/-- What a list of items holds under a name comes back under the name. -/
theorem exists_lookup_reread {name : String} {d : Diagram} {items items' : List (String × Diagram)}
    (h : List.Forall₂ (fun item item' => item'.1 = item.1 ∧ Diagram.Reread item.2 item'.2)
      items items') (hd : Registry.lookup name items = some d) :
    ∃ d', Registry.lookup name items' = some d' ∧ d.Reread d' := by
  induction h with
  | nil => cases hd
  | @cons item item' items items' hitem _ ih =>
    rw [Registry.lookup] at hd ⊢
    rw [hitem.1]
    split at hd
    · next hname =>
      obtain rfl := Option.some.inj hd
      exact ⟨item'.2, if_pos hname, hitem.2⟩
    · next hname =>
      rw [if_neg hname]
      exact ih hd

namespace DiagramSet.Reread

variable {D D' : DiagramSet}

/-- Diagrams that come back stand under the names that they had. -/
theorem keys_eq (h : D.Reread D') : D'.keys = D.keys := by
  rw [Registry.keys, Registry.keys, ← List.forall₂_eq_eq_eq, List.forall₂_map_left_iff,
    List.forall₂_map_right_iff]
  exact List.Forall₂.flip (h.imp fun _ _ hitem => hitem.1)

/-- Every diagram comes back under its name. -/
theorem exists_get? (h : D.Reread D') {name : String} {d : Diagram} (hd : D.get? name = some d) :
    ∃ d', D'.get? name = some d' ∧ d.Reread d' :=
  exists_lookup_reread h hd

/-- Diagrams that were read are written as they were. -/
theorem write_eq (h : D.Reread D') (hD : D.FromLines) :
    Block.write true D' = Block.write true D := by
  have hlines : ∀ item ∈ D.items, item.2.FromLines := fun item hi =>
    (Registry.Forall.of_mem_items hD hi).2
  have hsections : List.Forall₂ (fun d d' => Diagram.lines true d' = Diagram.lines true d)
      D.values D'.values := by
    rw [Registry.values, Registry.values, List.forall₂_map_left_iff, List.forall₂_map_right_iff]
    exact (List.forall₂_and_left _ _).2 ⟨hlines, h⟩ |>.imp fun _ _ hboth =>
      hboth.2.2.lines_eq hboth.1
  rw [Block.write, Block.write, Block.sections_congr hsections]

end DiagramSet.Reread

/-! ## Texts -/

/-- Whether diagrams come back from the block that they are written to: they fit into lines, and
none of them has the empty name. -/
structure DiagramSet.Fit (D : DiagramSet) : Prop where
  fromLines : D.FromLines
  named : "" ∉ D.keys

namespace Block

variable {D D' : DiagramSet} {text saved : String}

/-- A save succeeds exactly if the diagrams can be written, and then puts their block into the
text. -/
theorem save_eq_ok :
    save text D = .ok saved ↔
      ∃ block, write true D = .ok block ∧ saved = spliceText text block := by
  rw [save, except_bind_eq_ok]
  exact exists_congr fun block => and_congr_right fun _ =>
    ⟨fun h => (Except.ok.inj h).symm, fun h => congrArg Except.ok h.symm⟩

/-- The diagrams that are saved in a text are read from it. -/
theorem readText_save (h : save text D = .ok saved) (hfit : D.Fit) :
    ∃ D' ws, readText saved = .ok (some D', ws) ∧ D.Reread D' := by
  obtain ⟨hD, hne⟩ := hfit
  obtain ⟨block, hblock, rfl⟩ := save_eq_ok.1 h
  obtain ⟨parts, hparts, hlocate⟩ := locate_of_write hblock fun d hd => (hD.of_mem hd).avoids
  have hwhole := hlocate []
  rw [List.append_nil] at hwhole
  have hfound : locate (spliceText text block).toList = some ⟨(around text.toList).1,
      '/' :: '*' :: ' ' :: marker, writtenContent parts, (around text.toList).2⟩ := by
    rw [spliceText, String.toList_ofList]
    exact locate_splice hwhole text.toList
  obtain ⟨ds', D', hds, hread, hitems⟩ := readContent_writtenContent hparts
    (fun _ => hD.legible hne) (hD.map_name_values ▸ D.nodup_keys)
    (Located.line ⟨(around text.toList).1, '/' :: '*' :: ' ' :: marker, writtenContent parts,
      (around text.toList).2⟩)
  exact ⟨D', warnings (spliceText text block).toList,
    readText_eq_ok.2 ⟨_, [], hfound, hread, List.append_nil _⟩, hD.reread hds hitems⟩

/-- Saving what was read from a saved text leaves the text as it is. -/
theorem save_reread (h : save text D = .ok saved) (hD : D.FromLines) (hr : D.Reread D') :
    save saved D' = .ok saved := by
  obtain ⟨block, hblock, rfl⟩ := save_eq_ok.1 h
  have hwhole : Whole block.toList := whole_of_write hblock fun d hd => (hD.of_mem hd).avoids
  refine save_eq_ok.2 ⟨block, (hr.write_eq hD).trans hblock, ?_⟩
  rw [spliceText_spliceText hwhole]

end Block

end SchemaCanvas
