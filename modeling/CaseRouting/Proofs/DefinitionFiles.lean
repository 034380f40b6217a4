import CaseRouting.Definition.File
import CaseRouting.Proofs.DefinitionRoundTrip
import CaseRouting.Proofs.Utf8
import Mathlib.Data.List.TakeWhile

/-!
# Which files hold definitions

A definition is read from a file whose bytes are a text, and the last component of the path decides
whether that text is read as YAML. The component is the last part between slashes that is neither
empty nor a single dot, and only names that end in `.yaml` or `.yml` and have more in front of that
are read as YAML.
-/

namespace CaseRouting

section Components

variable {path : String} {name : List Char}

/-- A part of a path that names something, in contrast to those that only stay where they are. -/
def Names (part : List Char) : Prop := part ≠ [] ∧ part ≠ ['.']

instance (part : List Char) : Decidable (Names part) := inferInstanceAs (Decidable (_ ∧ _))

/-- The last component of a path: of the parts between its slashes, the last one that names
something. -/
structure IsLastComponent (path : String) (name : List Char) : Prop where
  names : Names name
  last : ∃ front behind, path.toList = ['/'].intercalate (front ++ name :: behind) ∧
    (∀ part ∈ front ++ name :: behind, '/' ∉ part) ∧ ∀ part ∈ behind, ¬ Names part

/-- No part of a text that is split has the separator, wherever the part stands. -/
theorem not_mem_of_mem_splitOn {separator : Char} {cs part : List Char}
    (h : part ∈ cs.splitOn separator) : separator ∉ part := by
  induction cs generalizing part with
  | nil =>
    rw [List.splitOn_nil, List.mem_singleton] at h
    exact h ▸ List.not_mem_nil
  | cons c cs ih =>
    rw [List.splitOn_cons_eq_if_modifyHead] at h
    split at h
    · obtain rfl | h := List.mem_cons.mp h
      · exact List.not_mem_nil
      · exact ih h
    next hc =>
      obtain ⟨first, others, hsplit⟩ :=
        List.exists_cons_of_ne_nil (List.splitOn_ne_nil separator cs)
      rw [hsplit, List.modifyHead_cons] at h
      rw [hsplit] at ih
      obtain rfl | h := List.mem_cons.mp h
      · rw [List.mem_cons, not_or]
        exact ⟨fun heq => hc (by simp [heq]), ih List.mem_cons_self⟩
      · exact ih (List.mem_cons_of_mem _ h)

/-- The parts of a path are free of slashes and give the path when slashes are put between them, and
there is one such list only. -/
theorem pathParts_eq_iff {parts : List (List Char)} :
    pathParts path = parts ↔
      parts ≠ [] ∧ (∀ part ∈ parts, '/' ∉ part) ∧ path.toList = ['/'].intercalate parts := by
  constructor
  · rintro rfl
    exact ⟨List.splitOn_ne_nil _ _, fun _ => not_mem_of_mem_splitOn,
      (List.intercalate_splitOn '/').symm⟩
  · rintro ⟨hne, hplain, hpath⟩
    rw [pathParts, hpath, List.splitOn_intercalate '/' hplain hne]

/-- The file name of a path is the last of the parts that name something, and empty if none does. -/
theorem fileName_eq_getLast? (path : String) :
    fileName path = ((pathParts path).filter fun part => Names part).getLast?.getD [] := rfl

/-- The file name of a path is its last component, if the path has one. -/
theorem fileName_eq_iff (hname : name ≠ []) : fileName path = name ↔ IsLastComponent path name := by
  rw [fileName_eq_getLast?]
  constructor
  · intro h
    have hlast : ((pathParts path).filter fun part => Names part).getLast? = some name := by
      cases hlast : ((pathParts path).filter fun part => Names part).getLast? with
      | none =>
        rw [hlast] at h
        exact absurd h.symm hname
      | some found =>
        rw [hlast] at h
        exact congrArg some h
    obtain ⟨named, hnamed⟩ := List.getLast?_eq_some_iff.mp hlast
    obtain ⟨front, others, hparts, -, hothers⟩ := List.filter_eq_append_iff.mp hnamed
    obtain ⟨skipped, behind, rfl, -, hthis, hbehind⟩ := List.filter_eq_cons_iff.mp hothers
    obtain ⟨-, hplain, hpath⟩ := pathParts_eq_iff.mp hparts
    rw [← List.append_assoc] at hplain hpath
    exact ⟨of_decide_eq_true hthis, front ++ skipped, behind, hpath, hplain,
      by simpa [List.filter_eq_nil_iff] using hbehind⟩
  · rintro ⟨hnames, front, behind, hpath, hplain, hbehind⟩
    have hparts : pathParts path = front ++ name :: behind :=
      pathParts_eq_iff.mpr ⟨by simp, hplain, hpath⟩
    have hnone : behind.filter (fun part => Names part) = [] := by
      simpa [List.filter_eq_nil_iff] using hbehind
    have hkept : (name :: behind).filter (fun part => Names part) = [name] := by
      rw [List.filter_cons_of_pos (by exact decide_eq_true hnames), hnone]
    rw [hparts, List.filter_append, hkept, List.getLast?_concat, Option.getD_some]

end Components

section Extensions

/-- A name with a dot has what stands behind its last dot as an extension, unless nothing stands in
front of that dot. -/
theorem extension?_append {stem extension : List Char} (hplain : '.' ∉ extension) :
    extension? (stem ++ '.' :: extension) =
      if stem ++ '.' :: extension = ['.', '.'] ∨ stem = [] then none else some extension := by
  have hkept : ∀ c ∈ extension.reverse, decide (c ≠ '.') = true := fun c hc =>
    decide_eq_true fun heq => hplain (heq ▸ List.mem_reverse.mp hc)
  rw [extension?, List.reverse_append, List.reverse_cons, List.append_assoc,
    List.takeWhile_append_of_pos hkept, List.dropWhile_append_of_pos hkept]
  simp

/-- A name without a dot has no extension, as all of it is what follows the last dot. -/
theorem extension?_eq_none {name : List Char} (hplain : '.' ∉ name) : extension? name = none := by
  have hdropped : name.reverse.dropWhile (fun c => decide (c ≠ '.')) = [] := by
    rw [List.dropWhile_eq_nil_iff]
    exact fun c hc => decide_eq_true fun heq => hplain (heq ▸ List.mem_reverse.mp hc)
  rw [extension?, hdropped]
  simp

/-- The extension of a name stands behind its last dot, and something stands in front of that dot;
the name of the parent directory has none. -/
theorem extension?_eq_some_iff {name extension : List Char} :
    extension? name = some extension ↔ name ≠ ['.', '.'] ∧
      ∃ stem, stem ≠ [] ∧ '.' ∉ extension ∧ name = stem ++ '.' :: extension := by
  constructor
  · intro h
    by_cases hdot : '.' ∈ name.reverse
    · obtain ⟨before, behind, hsplit, hplain⟩ := List.eq_append_cons_of_mem hdot
      have hname : name = behind.reverse ++ '.' :: before.reverse := by
        rw [← name.reverse_reverse, hsplit]
        simp
      rw [hname, extension?_append (by simpa using hplain), ← hname] at h
      split at h
      · cases h
      next hfull =>
        obtain rfl := Option.some.inj h
        rw [not_or] at hfull
        exact ⟨hfull.1, _, hfull.2, by simpa using hplain, hname⟩
    · rw [extension?_eq_none (mt List.mem_reverse.mpr hdot)] at h
      cases h
  · rintro ⟨hdots, stem, hstem, hplain, rfl⟩
    rw [extension?_append hplain, if_neg (not_or.mpr ⟨hdots, hstem⟩)]

/-- The extensions of files in YAML, in small letters only. -/
def yamlExtensions : List (List Char) := [['y', 'a', 'm', 'l'], ['y', 'm', 'l']]

/-- A path whose last component ends in `.yaml` or `.yml`, with something in front of that. -/
def CallsForYaml (path : String) : Prop :=
  ∃ stem, stem ≠ [] ∧ ∃ extension ∈ yamlExtensions, IsLastComponent path (stem ++ '.' :: extension)

/-- A format other than JSON is called for by one of two extensions, and by nothing else in the
path. -/
theorem ofPath_eq_yaml_iff_extension {path : String} :
    DefinitionFormat.ofPath path = .yaml ↔
      ∃ extension ∈ yamlExtensions, extension? (fileName path) = some extension := by
  unfold DefinitionFormat.ofPath
  split
  next h => simp [h, yamlExtensions]
  next h => simp [h, yamlExtensions]
  next hyaml hyml => simpa [yamlExtensions] using ⟨hyaml, hyml⟩

/-- Paths that end in `.yaml` or `.yml` call for YAML, and no others do. That something stands in
front is part of it. -/
theorem ofPath_eq_yaml_iff {path : String} :
    DefinitionFormat.ofPath path = .yaml ↔ CallsForYaml path := by
  rw [ofPath_eq_yaml_iff_extension]
  constructor
  · rintro ⟨extension, hyaml, hextension⟩
    obtain ⟨-, stem, hstem, -, hname⟩ := extension?_eq_some_iff.mp hextension
    exact ⟨stem, hstem, extension, hyaml, (fileName_eq_iff (by simp)).mp hname⟩
  · rintro ⟨stem, hstem, extension, hyaml, hlast⟩
    have hlong : ∀ extension ∈ yamlExtensions, 3 ≤ extension.length ∧ '.' ∉ extension := by decide
    refine ⟨extension, hyaml, ?_⟩
    rw [(fileName_eq_iff (by simp)).mpr hlast, extension?_eq_some_iff]
    refine ⟨fun hdots => ?_, stem, hstem, (hlong extension hyaml).2, rfl⟩
    have hlength := congrArg List.length hdots
    have hthree := (hlong extension hyaml).1
    simp only [List.length_append, List.length_cons, List.length_nil] at hlength
    omega

instance (path : String) : Decidable (CallsForYaml path) :=
  decidable_of_iff _ ofPath_eq_yaml_iff

example : ¬ CallsForYaml "flows.d/.yaml" ∧ ¬ CallsForYaml "request.yaml.json" ∧
    ¬ CallsForYaml "request.YML" ∧ CallsForYaml "flows.d/.request.yml//." := by decide

end Extensions

section Loading

open Utf8 (IsText isText_iff_exists_toUTF8)

/-- A text is read as YAML if the path calls for it, and as JSON otherwise, and what the reader
reports is the error. -/
theorem ofText_ofPath (path text : String) :
    ProcessDefinition.ofText (.ofPath path) text =
      if CallsForYaml path then
        (ProcessDefinition.ofYamlText text).elim (.error .yaml) .ok
      else
        (ProcessDefinition.ofJsonText text).mapError .json := by
  split
  next hyaml =>
    rw [ofPath_eq_yaml_iff.mpr hyaml, ProcessDefinition.ofText]
    cases ProcessDefinition.ofYamlText text <;> rfl
  next hjson =>
    have hformat : DefinitionFormat.ofPath path = .json := by
      cases hformat : DefinitionFormat.ofPath path with
      | json => rfl
      | yaml => exact absurd (ofPath_eq_yaml_iff.mp hformat) hjson
    rw [hformat, ProcessDefinition.ofText]
    cases ProcessDefinition.ofJsonText text <;> rfl

/-- Reading a text does not report that the file cannot be read, so that such a report tells of the
bytes. -/
theorem ofText_ne_unreadable {format : DefinitionFormat} {text path : String} {reason : ReadError} :
    ProcessDefinition.ofText format text ≠ .error (.unreadable path reason) := by
  cases format with
  | json =>
    rw [ProcessDefinition.ofText]
    cases ProcessDefinition.ofJsonText text <;> nofun
  | yaml =>
    rw [ProcessDefinition.ofText]
    cases ProcessDefinition.ofYamlText text <;> nofun

/-- The bytes at a path are read as a text before anything else happens to them, be the format JSON
or YAML. -/
theorem load_eq_of_bytes {files : FileReader} {path : String} {bytes : ByteArray}
    (hfile : files path = .ok bytes) :
    ProcessDefinition.load files path =
      match textOfBytes bytes with
      | .error reason => .error (.unreadable path reason)
      | .ok text => ProcessDefinition.ofText (.ofPath path) text := by
  rw [ProcessDefinition.load, hfile]
  rfl

/-- A definition is loaded from a file by its bytes and its path. If there are no bytes, the reason
is reported and nothing is parsed. Bytes that are no text are reported, whatever the path is, and
are the only ones that are. The text that other bytes encode is read as YAML if the last component
of the path ends in `.yaml` or `.yml` with something in front of that, and as JSON otherwise. -/
theorem load_decided_by_bytes_and_path (files : FileReader) (path : String) :
    (∀ reason, files path = .error reason →
      ProcessDefinition.load files path = .error (.unreadable path reason)) ∧
    ∀ bytes, files path = .ok bytes →
      ((∃ named reason, ProcessDefinition.load files path = .error (.unreadable named reason)) ↔
        ¬ IsText bytes.data.toList) ∧
      (¬ IsText bytes.data.toList →
        ProcessDefinition.load files path = .error (.unreadable path .notText)) ∧
      (IsText bytes.data.toList ↔ ∃ text : String, text.toUTF8 = bytes) ∧
      ∀ text : String, text.toUTF8 = bytes → ProcessDefinition.load files path =
        if CallsForYaml path then
          (ProcessDefinition.ofYamlText text).elim (.error .yaml) .ok
        else
          (ProcessDefinition.ofJsonText text).mapError .json := by
  constructor
  · intro reason hfile
    rw [ProcessDefinition.load, hfile]
    rfl
  intro bytes hfile
  have hload := load_eq_of_bytes hfile
  have hrefused (hinvalid : ¬ IsText bytes.data.toList) :
      ProcessDefinition.load files path = .error (.unreadable path .notText) := by
    rw [hload, textOfBytes_eq_error_iff.mpr ⟨hinvalid, rfl⟩]
  refine ⟨?_, hrefused, isText_iff_exists_toUTF8, ?_⟩
  · constructor
    · rintro ⟨named, reason, hunreadable⟩ hvalid
      obtain ⟨text, htext⟩ := isText_iff_exists_toUTF8.mp hvalid
      rw [hload, textOfBytes_eq_ok_iff.mpr htext] at hunreadable
      exact ofText_ne_unreadable hunreadable
    · exact fun hinvalid => ⟨path, .notText, hrefused hinvalid⟩
  · intro text htext
    rw [hload, textOfBytes_eq_ok_iff.mpr htext]
    exact ofText_ofPath path text

/-- A file in the working directory is read by its name, if the name has no slash and means no
directory. -/
theorem Directory.read_name {directory : Directory} {name : String} {bytes : ByteArray}
    (hplain : '/' ∉ name.toList) (hnames : Names name.toList) (hup : name.toList ≠ ['.', '.'])
    (hlookup : directory.lookup name = some (.file bytes)) : directory.read name = .ok bytes := by
  obtain ⟨c, cs, hcs⟩ := List.exists_cons_of_ne_nil hnames.1
  have hc : c ≠ '/' := fun heq => hplain (hcs ▸ heq ▸ List.mem_cons_self)
  have hparts : pathParts name = [name.toList] := List.splitOn_eq_singleton hplain
  have hfollow : directory.follow .here name.toList = .ok (.entry (.file bytes)) := by
    rw [Directory.follow, String.ofList_toList, hlookup]
    · exact hnames.1
    · exact hnames.2
    · exact hup
  unfold Directory.read
  rw [hparts, hcs]
  simp only [if_neg hc]
  rw [List.foldlM_cons, ← hcs, hfollow]
  rfl

/-- A process that is over at once, laid out in lines as YAML has them. -/
def closingText : String :=
  "process_id: closing\nnodes:\n- id: End\n  type: end_event\nflows: []\n"

/-- The process that is laid out there, with a single node and no flows. -/
def closingProcess : ProcessDefinition := ⟨"closing", none, [.endEvent "End"], []⟩

/-- Four files and one that is missing. The lines of a process are read as YAML in a file whose name
ends in `.yml`, and refused as JSON in one that has nothing in front of its ending. The process of
requests is read from its JSON text, and bytes with which no text starts are reported. -/
theorem load_decided_by_bytes_and_path_four_files :
    let files : FileReader := Directory.read
      [("closing.yml", .file closingText.toUTF8), (".yaml", .file closingText.toUTF8),
        ("request.json", .file requestProcess.toText.toUTF8),
        ("broken.yaml", .file ⟨#[0xC0, 0x80]⟩)]
    ProcessDefinition.load files "closing.yml" = .ok closingProcess ∧
      ProcessDefinition.load files ".yaml" = .error (.json .malformed) ∧
      ProcessDefinition.load files "request.json" = .ok requestProcess ∧
      ProcessDefinition.load files "broken.yaml" =
        .error (.unreadable "broken.yaml" .notText) ∧
      ProcessDefinition.load files "missing.yml" =
        .error (.unreadable "missing.yml" .notFound) := by
  intro files
  obtain ⟨-, hyaml⟩ := load_decided_by_bytes_and_path files "closing.yml"
  obtain ⟨-, hhidden⟩ := load_decided_by_bytes_and_path files ".yaml"
  obtain ⟨-, hjson⟩ := load_decided_by_bytes_and_path files "request.json"
  obtain ⟨-, hbroken⟩ := load_decided_by_bytes_and_path files "broken.yaml"
  obtain ⟨hmissing, -⟩ := load_decided_by_bytes_and_path files "missing.yml"
  have hclosing : ProcessDefinition.ofYamlText closingText = some closingProcess := by
    decide +kernel
  have hrefused : ProcessDefinition.ofJsonText closingText = .error .malformed := rfl
  refine ⟨?_, ?_, ?_, ?_, hmissing _ rfl⟩
  · obtain ⟨-, -, -, hload⟩ := hyaml _ (Directory.read_name (by decide) (by decide) (by decide) rfl)
    rw [hload _ rfl, if_pos (by decide), hclosing]
    rfl
  · obtain ⟨-, -, -, hload⟩ :=
      hhidden _ (Directory.read_name (by decide) (by decide) (by decide) rfl)
    rw [hload _ rfl, if_neg (by decide), hrefused]
    rfl
  · obtain ⟨-, -, -, hload⟩ := hjson _ (Directory.read_name (by decide) (by decide) (by decide) rfl)
    rw [hload _ rfl, if_neg (by decide), ofJsonText_written]
    rfl
  · obtain ⟨-, hload, -⟩ :=
      hbroken _ (Directory.read_name (by decide) (by decide) (by decide) rfl)
    exact hload (by decide)

end Loading

end CaseRouting
