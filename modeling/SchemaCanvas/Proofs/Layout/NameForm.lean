import SchemaCanvas.Layout.Name
import SchemaCanvas.Proofs.Text.Cut

/-!
# The forms of a written name

A name stands in a line in one of two forms: characters that need no quotes, or a text between
quotes whose own quotes come in pairs (`Name.Form`). One written name may begin another, as `"a"`
does `"a""b"` and `a` does `ab`, so where it ends is told by what follows it (`Name.Ends`); in an
entry that is a point, a blank or nothing (`Name.Follows`). Where a name ends, the reader takes
exactly what has the form (`Name.scan_eq_some_iff`), and a text has no second name at its front
(`Name.Form.append_inj`).

Every name is written in a form, whatever characters it has, and read back. So nothing is lost by
writing a name and no two names are written alike, nor are two qualified names
(`Name.quote_unambiguous`).
-/

namespace SchemaCanvas.Name

/-- The forms of a written name: some bare characters, or quotes around a text whose own quotes come
in pairs. -/
inductive Form : List Char → Prop
  | bare {cs : List Char} (hne : cs ≠ []) (hcs : ∀ c ∈ cs, isBare c = true) : Form cs
  | quoted {inside : List Char} (h : Text.Paired '"' inside) : Form ('"' :: (inside ++ ['"']))

/-- What ends a written name: nothing, or a character that is neither bare nor a quote. -/
def Ends (rest : List Char) : Prop :=
  rest.head?.all (fun c => !isBare c && c ≠ '"') = true

/-- What follows a name in an entry: nothing, a point, or a blank. -/
inductive Follows : List Char → Prop
  | nothing : Follows []
  | point (rest : List Char) : Follows ('.' :: rest)
  | blank {c : Char} (hc : Text.isBlank c = true) (rest : List Char) : Follows (c :: rest)

variable {written rest : List Char}

/-- A written name ends where the next character, if there is one, is neither bare nor a quote. -/
theorem ends_iff : Ends rest ↔ ∀ c ∈ rest.head?, isBare c = false ∧ c ≠ '"' := by
  cases rest <;> simp [Ends]

/-- A name in an entry ends where a point, a blank or nothing follows it. -/
theorem Follows.ends (h : Follows rest) : Ends rest := by
  cases h with
  | nothing => rfl
  | point rest => rfl
  | @blank c hc rest =>
    have hbare : isBare c = false := by simp [isBare, hc]
    have hquote : c ≠ '"' := by
      rintro rfl
      exact absurd hc (by decide)
    simp [Ends, hbare, hquote]

/-! ## Taking a name off the front of a text -/

/-- What is taken off the front of a text for a name has the form of one. -/
theorem form_of_scan {cs : List Char} (h : scan cs = some (written, rest)) :
    cs = written ++ rest ∧ Form written := by
  cases cs with
  | nil => cases h
  | cons c cs =>
    rw [scan] at h
    split at h
    · next hq =>
      subst hq
      obtain ⟨⟨inside, after⟩, hclose, hcut⟩ := Option.map_eq_some_iff.1 h
      obtain ⟨rfl, rfl⟩ := Prod.mk.inj hcut
      obtain ⟨rfl, hinside, -⟩ := Text.closeQuote_eq_some_iff.1 hclose
      exact ⟨by simp, .quoted hinside⟩
    · split at h
      · next hc =>
        obtain ⟨rfl, rfl⟩ := Prod.mk.inj (Option.some.inj h)
        refine ⟨List.takeWhile_append_dropWhile.symm,
          .bare ?_ (List.all_eq_true.1 List.all_takeWhile)⟩
        rw [List.takeWhile_cons_of_pos hc]
        exact List.cons_ne_nil _ _
      · cases h

/-- A name is taken off the front of a text when what follows ends it. -/
theorem Form.scan (h : Form written) (hrest : Ends rest) :
    Name.scan (written ++ rest) = some (written, rest) := by
  have hends := ends_iff.1 hrest
  cases h with
  | bare hne hcs =>
    obtain ⟨c, cs, rfl⟩ := List.exists_cons_of_ne_nil hne
    have hc : isBare c = true := hcs c List.mem_cons_self
    have hq : c ≠ '"' := by
      rintro rfl
      exact absurd hc (by decide)
    have hstop : ∀ d ∈ rest.head?, isBare d = false := fun d hd => (hends d hd).1
    rw [List.cons_append, Name.scan, if_neg hq, if_pos hc, ← List.cons_append,
      Text.takeWhile_run hcs hstop, Text.dropWhile_run hcs hstop]
  | @quoted inside hinside =>
    have hstop : rest.head? ≠ some '"' := fun hhead => (hends '"' hhead).2 rfl
    have hclose : Text.closeQuote '"' (inside ++ '"' :: rest) = some (inside, rest) :=
      Text.closeQuote_eq_some_iff.2 ⟨rfl, hinside, hstop⟩
    rw [List.cons_append, List.append_assoc, List.singleton_append, Name.scan, if_pos rfl, hclose]
    rfl

/-- Where a name ends, the reader takes exactly what has the form of a name. -/
theorem scan_eq_some_iff {cs : List Char} (hrest : Ends rest) :
    scan cs = some (written, rest) ↔ cs = written ++ rest ∧ Form written := by
  refine ⟨form_of_scan, ?_⟩
  rintro ⟨rfl, h⟩
  exact h.scan hrest

/-- A text has one name at its front at most, when what follows ends it. -/
theorem Form.append_inj {written' rest' : List Char} (h : Form written) (h' : Form written')
    (hrest : Ends rest) (hrest' : Ends rest') (heq : written ++ rest = written' ++ rest') :
    written = written' ∧ rest = rest' := by
  have hscan : Name.scan (written ++ rest) = some (written', rest') :=
    (scan_eq_some_iff hrest').2 ⟨heq, h'⟩
  rw [h.scan hrest] at hscan
  exact Prod.mk.inj (Option.some.inj hscan)

/-! ## Writing a name -/

/-- A name is written in one of the two forms, whatever its characters are. -/
theorem form_write (name : List Char) : Form (write name) := by
  rw [write]
  split
  · next h => exact .bare h.1 (List.all_eq_true.1 h.2)
  · exact .quoted (Text.paired_double '"' name)

/-- What is written for a name is taken off the front of a text again. -/
theorem scan_write (name : List Char) (h : Ends rest) :
    scan (write name ++ rest) = some (write name, rest) :=
  (form_write name).scan h

/-- No two names are written alike. -/
theorem write_injective : Function.Injective write :=
  Function.LeftInverse.injective read_write

/-- Where a written name stands before what may follow it, no other beginning of the text has the
form of a name and is followed as names are. -/
theorem form_and_follows_iff (name : List Char) {p after : List Char} (hrest : Follows rest)
    (heq : write name ++ rest = p ++ after) : Form p ∧ Follows after ↔ p = write name := by
  constructor
  · rintro ⟨hp, hafter⟩
    exact (hp.append_inj (form_write name) hafter.ends hrest.ends heq.symm).1
  · rintro rfl
    exact ⟨form_write name, List.append_cancel_left heq ▸ hrest⟩

/-! ## Qualified names -/

/-- A qualified name is written part by part, split at its first point. -/
theorem writeQualified_append {schema : List Char} (h : '.' ∉ schema) (table : List Char) :
    writeQualified (schema ++ '.' :: table) = write schema ++ '.' :: write table := by
  rw [writeQualified, Text.cutAt_append_cons h]

/-- No two qualified names are written alike. -/
theorem writeQualified_inj {schema schema' : List Char} (h : '.' ∉ schema) (h' : '.' ∉ schema')
    (table table' : List Char) :
    writeQualified (schema ++ '.' :: table) = writeQualified (schema' ++ '.' :: table') ↔
      schema = schema' ∧ table = table' := by
  constructor
  · intro heq
    rw [writeQualified_append h, writeQualified_append h'] at heq
    -- The point behind each schema's name ends it.
    obtain ⟨hschema, htable⟩ := (form_write schema).append_inj (form_write schema')
      (Follows.point _).ends (Follows.point _).ends heq
    exact ⟨write_injective hschema, write_injective (List.cons.inj htable).2⟩
  · rintro ⟨rfl, rfl⟩
    rfl

/-- **Names are written without loss and without ambiguity.** Every name is read back from what is
written for it. Before anything that may follow a name, what is written is taken off the front of
the text, and no other beginning of the text has the form of a name and is followed as names are.
Hence qualified names are written alike only when their schemas and their tables have the same
names. -/
theorem quote_unambiguous :
    (∀ n : String, unquote (quote n) = n) ∧
    (∀ (n : String) (rest : List Char), Follows rest →
      scan ((quote n).toList ++ rest) = some ((quote n).toList, rest) ∧
      ∀ p after, (quote n).toList ++ rest = p ++ after →
        (Form p ∧ Follows after ↔ p = (quote n).toList)) ∧
    ∀ s t s' t' : String, '.' ∉ s.toList → '.' ∉ s'.toList →
      (quoteQualified (s ++ "." ++ t) = quoteQualified (s' ++ "." ++ t') ↔ s = s' ∧ t = t') := by
  refine ⟨fun n => ?_, fun n rest hrest => ?_, fun s t s' t' hs hs' => ?_⟩
  · rw [unquote, quote, String.toList_ofList, read_write, String.ofList_toList]
  · rw [quote, String.toList_ofList]
    exact ⟨scan_write n.toList hrest.ends,
      fun p after heq => form_and_follows_iff n.toList hrest heq⟩
  · have hqualified : ∀ a b : String, (a ++ "." ++ b).toList = a.toList ++ '.' :: b.toList := by
      intro a b
      simp
    rw [quoteQualified, quoteQualified, String.ofList_inj, hqualified, hqualified,
      writeQualified_inj hs hs', String.toList_inj, String.toList_inj]

/-- Another beginning of the text has the form of a name, but a quote follows it. The last name is
what is written for the one before it. -/
theorem quote_crookedNames :
    unquote "\"a\"\".b\"" = "a\".b" ∧
      (Follows ['.', '"', 'c', '"'] ∧ Form "\"a\"".toList ∧
        ∀ p after, "\"a\"\".b\".\"c\"".toList = p ++ after →
          (Form p ∧ Follows after ↔ p = "\"a\"\".b\"".toList)) ∧
      '.' ∉ "a b".toList ∧ '.' ∉ "\"a b\"".toList ∧
        quoteQualified "a b.." = "\"a b\".\".\"" ∧
        quoteQualified "a b.." ≠ quoteQualified "\"a b\".\".\"" := by
  have hquote : quote "a\".b" = "\"a\"\".b\"" := by decide +kernel
  have hfollows : Follows ['.', '"', 'c', '"'] := .point _
  have hpaired : Text.Paired '"' ['a'] := .other (by decide) .nil
  have hform : Form "\"a\"".toList := .quoted hpaired
  have hplain : '.' ∉ "a b".toList ∧ '.' ∉ "\"a b\"".toList := by decide +kernel
  obtain ⟨hread, honly, hqualified⟩ := quote_unambiguous
  refine ⟨hquote ▸ hread _, ⟨hfollows, hform, fun p after heq => ?_⟩, hplain.1, hplain.2,
    by decide +kernel, fun heq => ?_⟩
  · rw [← hquote]
    refine (honly "a\".b" _ hfollows).2 p after ?_
    rw [hquote, ← heq]
    decide +kernel
  · have hsame := (hqualified "a b" "." "\"a b\"" "\".\"" hplain.1 hplain.2).1 heq
    exact absurd hsame.1 (by decide)

end SchemaCanvas.Name
