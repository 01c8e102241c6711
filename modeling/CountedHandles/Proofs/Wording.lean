import CountedHandles.Fault

/-!
# The wording of reports

A report is written line by line: a first line that counts the handles, and a line for each of them
that is registered, which its backtrace follows if one was captured. White space at the end is cut
off. Without backtraces the report breaks into exactly these lines.
-/

namespace CountedHandles

variable {text other : String} {texts : List String}

/-- The last character of a text is no white space. -/
def EndsVisibly (text : String) : Prop :=
  ∃ character, text.toList.getLast? = some character ∧ isWhiteSpace character = false

/-- A text ends like its last part. -/
theorem EndsVisibly.append (h : EndsVisibly other) : EndsVisibly (text ++ other) := by
  obtain ⟨character, hlast, hvisible⟩ := h
  refine ⟨character, ?_, hvisible⟩
  rw [String.toList_append, List.getLast?_append, hlast, Option.some_or]

/-- Lines that end visibly make a text that does. -/
theorem EndsVisibly.intercalate (hne : texts ≠ []) (h : ∀ text ∈ texts, EndsVisibly text) :
    EndsVisibly ("\n".intercalate texts) := by
  induction texts with
  | nil => exact absurd rfl hne
  | cons text rest ih =>
    cases rest with
    | nil => simpa using h text (List.mem_singleton_self text)
    | cons next later =>
      rw [String.intercalate_cons_cons]
      exact (ih (by simp) fun other hmem => h other (List.mem_cons_of_mem _ hmem)).append

/-- Of a text that ends visibly only a line break after it is cut off. -/
theorem trimEnd_append_lineBreak (h : EndsVisibly text) : trimEnd (text ++ "\n") = text := by
  obtain ⟨character, hlast, hvisible⟩ := h
  obtain ⟨start, hstart⟩ := List.getLast?_eq_some_iff.mp hlast
  have hbreak : isWhiteSpace '\n' = true := by decide
  rw [← String.toList_inj, trimEnd, String.toList_ofList, String.toList_append, hstart]
  simp [hbreak, hvisible]

/-- Lines that each end with a line break are lines with line breaks between them and one more. -/
theorem join_lineBreaks (hne : texts ≠ []) :
    String.join (texts.map fun text => text ++ "\n") = "\n".intercalate texts ++ "\n" := by
  induction texts with
  | nil => exact absurd rfl hne
  | cons text rest ih =>
    rw [List.map_cons, String.join_cons]
    cases rest with
    | nil => simp
    | cons next later =>
      rw [ih (by simp), String.intercalate_cons_cons, ← String.append_assoc]

/-- A number is written without a line break. -/
theorem lineBreak_notMem_toDigits (n : Nat) : '\n' ∉ Nat.toDigits 10 n := by
  intro hmem
  have hdigit := Nat.isDigit_of_mem_toDigits (by decide) (by decide) hmem
  exact absurd hdigit (by decide)

namespace Violation

variable {violation : Violation} {backtrace? : Serial → Option String}
  {entry : Serial × Provenance}

/-- The line of a registered handle names it and says in words where it comes from. -/
theorem exists_entryLine_eq {serial : Serial} {provenance : Provenance} :
    ∃ origin, entryLine (serial, provenance) =
        "  handle #" ++ toString serial ++ " (" ++ origin ++ ")" ∧
      (provenance = .created → origin = "constructed") ∧
      (∀ source, provenance = .copied source → origin = "copied from #" ++ toString source) ∧
      ∀ source, provenance = .moved source → origin = "moved from #" ++ toString source := by
  have htext (start : String) (serial : Serial) :
      start ++ "#" ++ toString serial = start ++ serial.text := String.append_assoc
  refine ⟨provenance.text, ?_, ?_, ?_, ?_⟩
  · rw [entryLine, Serial.text, ← String.append_assoc]
    rfl
  · rintro rfl
    rfl
  · rintro source rfl
    exact (htext "copied from " source).symm
  · rintro source rfl
    exact (htext "moved from " source).symm

/-- What comes after the first line for a registered handle: its line, and its backtrace if one was
captured. -/
def entryText (backtrace? : Serial → Option String) (entry : Serial × Provenance) : String :=
  entryLine entry ++ "\n" ++ (backtrace? entry.1).elim "" fun backtrace => backtrace ++ "\n"

/-- A report is its first line and what there is to say about each registered handle, in order. -/
theorem report_eq : violation.report backtrace? =
    trimEnd (violation.header ++ "\n" ++
      String.join (violation.registered.map (entryText backtrace?))) := by
  have hentry (entry : Serial × Provenance) :
      String.join ((entryParts backtrace? entry).map fun part => part ++ "\n") =
        entryText backtrace? entry := by
    unfold entryParts entryText
    cases backtrace? entry.1 <;> simp
  have hentries (entries : List (Serial × Provenance)) :
      String.join ((entries.flatMap (entryParts backtrace?)).map fun part => part ++ "\n") =
        String.join (entries.map (entryText backtrace?)) := by
    induction entries with
    | nil => rfl
    | cons entry rest ih =>
      rw [List.flatMap_cons, List.map_append, String.join_append, hentry, ih, List.map_cons,
        String.join_cons]
  rw [report, parts, List.map_cons, String.join_cons, hentries]

theorem endsVisibly_header : EndsVisibly violation.header := by
  unfold header
  split
  · rw [String.append_empty]
    exact EndsVisibly.append ⟨'r', by simp, by decide⟩
  · exact EndsVisibly.append ⟨'s', by simp, by decide⟩

theorem endsVisibly_entryLine : EndsVisibly (entryLine entry) :=
  EndsVisibly.append ⟨')', by simp, by decide⟩

/-- Without backtraces a report is its first line and the line of each registered handle. -/
theorem report_of_none : violation.report =
    "\n".intercalate (violation.header :: violation.registered.map entryLine) := by
  have hparts : violation.parts (fun _ => none) =
      violation.header :: violation.registered.map entryLine := by
    rw [parts, List.map_eq_flatMap]
    rfl
  rw [report, hparts, join_lineBreaks (by simp)]
  refine trimEnd_append_lineBreak (.intercalate (by simp) fun text hmem => ?_)
  rcases List.mem_cons.mp hmem with rfl | hmem
  · exact endsVisibly_header
  · obtain ⟨entry, -, rfl⟩ := List.mem_map.mp hmem
    exact endsVisibly_entryLine

/-- A report without registered handles is its first line. -/
theorem report_of_registered_nil (hnil : violation.registered = []) :
    violation.report backtrace? = violation.header := by
  rw [report_eq, hnil]
  simp only [List.map_nil, String.join_nil, String.append_empty]
  exact trimEnd_append_lineBreak endsVisibly_header

/-- The first line is one line. -/
theorem lineBreak_notMem_header : '\n' ∉ violation.header.toList := by
  have hcount := lineBreak_notMem_toDigits violation.outstanding
  unfold header
  split <;> simpa using hcount

/-- The line of a registered handle is one line. -/
theorem lineBreak_notMem_entryLine : '\n' ∉ (entryLine entry).toList := by
  have hserial (serial : Serial) : '\n' ∉ serial.text.toList := by
    simpa [Serial.text] using lineBreak_notMem_toDigits serial
  have hprovenance : '\n' ∉ entry.2.text.toList := by
    cases entry.2 <;> simp [Provenance.text, hserial]
  simp [entryLine, hserial, hprovenance]

/-- Without backtraces a report breaks into its first line and the line of each registered
handle. -/
theorem splitOn_report : violation.report.toList.splitOn '\n' =
    (violation.header :: violation.registered.map entryLine).map String.toList := by
  have hbreak : "\n".toList = ['\n'] := rfl
  rw [report_of_none, String.toList_intercalate, hbreak]
  refine List.splitOn_intercalate _ (fun line hmem => ?_) (by simp)
  obtain ⟨text, htext, rfl⟩ := List.mem_map.mp hmem
  rcases List.mem_cons.mp htext with rfl | htext
  · exact lineBreak_notMem_header
  · obtain ⟨entry, -, rfl⟩ := List.mem_map.mp htext
    exact lineBreak_notMem_entryLine

end Violation

end CountedHandles
