import DesignRules.Proofs.Diagram.Spellings
import DesignRules.Proofs.Yaml.Documents
import DesignRules.Server.Service

/-! # Checks with other spellings of widths

A service answers an inquiry alike whichever spellings of integers stand at the widths in the
diagram, in the catalogue of the caller and in the files of the library.
-/

namespace DesignRules.Server

open Fields Yaml

variable {d e : Directory} {q r : Inquiry} {path : Path} {v w : Datum}

/-! ## Inquiries -/

/-- Two inquiries that differ in the spelling of widths only. -/
structure Inquiry.Respelt (q r : Inquiry) : Prop where
  diagram : Diagram.Respelt q.diagram r.diagram
  catalogue : q.catalogue.ItemsVary Component.Respelt r.catalogue
  checkOptionalPorts : q.checkOptionalPorts = r.checkOptionalPorts

namespace Inquiry

theorem components_of_respelt (h : q.Respelt r) : q.components = r.components := by
  have htrue {xs ys : List Datum} (hitems : List.Forall₂ Component.Respelt xs ys) :
      (Datum.list xs).isTrue = (Datum.list ys).isTrue := by cases hitems <;> rfl
  have hcatalogue := h.catalogue
  unfold components
  generalize q.catalogue = x, r.catalogue = y at hcatalogue
  cases hcatalogue with
  | same => rfl
  | list hitems =>
    simp only [htrue hitems, Datum.members?, Component.readEach_of_respelt hitems]

theorem options_of_respelt (h : q.Respelt r) (byDefault : Bool) :
    q.options byDefault = r.options byDefault := by
  rw [options, options, h.checkOptionalPorts]

end Inquiry

theorem Service.analyze_of_respelt [Pattern.Engine] (h : q.Respelt r) (timestamp : String)
    (byDefault : Bool) (supplied : List Component) (settings : Settings)
    (library : List Component) :
    analyze timestamp byDefault q supplied settings library =
      analyze timestamp byDefault r supplied settings library := by
  rw [analyze, analyze, Inquiry.options_of_respelt h, Diagram.read_of_respelt h.diagram]

/-! ## Directories -/

/-- At the components of a library stand the same ones with widths in other spellings. -/
def LibraryRespelt (key : String) (v w : Datum) : Prop :=
  key = Directory.componentsKey ∧ v.ItemsVary Component.Respelt w

section Engines

variable [Yaml.Engine]

/-- The same entry, or a file of the library with widths in other spellings. -/
inductive EntryRespelt : Path × Entry → Path × Entry → Prop
  | same (entry : Path × Entry) : EntryRespelt entry entry
  | library {path : Path} {text other : String} {v w : Datum}
      (hpath : path.dropLast = Directory.libraryFolder) (htext : Engine.load text = .ok (.data v))
      (hother : Engine.load other = .ok (.data w)) (h : v.ObjectVaries LibraryRespelt w) :
      EntryRespelt (path, .file text) (path, .file other)

/-- Two directories that differ in the spelling of widths in the library only. -/
def Directory.Respelt (d e : Directory) : Prop := List.Forall₂ EntryRespelt d.entries e.entries

namespace Directory

theorem lookup_of_respelt {xs ys : List (Path × Entry)} (h : List.Forall₂ EntryRespelt xs ys)
    (path : Path) :
    Option.Rel (fun x y => EntryRespelt (path, x) (path, y)) (xs.lookup path) (ys.lookup path) := by
  induction h with
  | nil => exact .none
  | @cons x y xs ys hentry _ ih =>
    obtain ⟨p, f⟩ := x
    obtain ⟨p', g⟩ := y
    obtain rfl : p = p' := by cases hentry <;> rfl
    rw [List.lookup_cons, List.lookup_cons]
    split
    case h_1 hpath =>
      obtain rfl := beq_iff_eq.mp hpath
      exact .some hentry
    case h_2 => exact ih

theorem map_fst_of_respelt {xs ys : List (Path × Entry)} (h : List.Forall₂ EntryRespelt xs ys) :
    xs.map (·.1) = ys.map (·.1) := by
  induction h with
  | nil => rfl
  | cons hentry _ ih => cases hentry <;> simp [ih]

theorem names_of_respelt (h : d.Respelt e) (folder : Path) : d.names folder = e.names folder := by
  have hnames (d : Directory) : d.names folder = Text.sorted ((d.entries.map (·.1)).filterMap
      fun path => if path.dropLast = folder then path.getLast? else none) := by
    rw [names, List.filterMap_map]
    rfl
  rw [hnames, hnames, map_fst_of_respelt h]

/-- Outside the library the entries are the same. -/
theorem entry?_eq_of_respelt (h : d.Respelt e) (hpath : path.dropLast ≠ libraryFolder) :
    d.entry? path = e.entry? path := by
  have hentry := lookup_of_respelt h path
  unfold entry?
  generalize d.entries.lookup path = x, e.entries.lookup path = y at hentry
  cases hentry with
  | none => rfl
  | some hentry =>
    cases hentry with
    | same => rfl
    | library hlibrary => exact absurd hlibrary hpath

theorem settings_of_respelt (h : d.Respelt e) : d.settings = e.settings := by
  have hentry : d.entry? settingsPath = e.entry? settingsPath :=
    entry?_eq_of_respelt h (by decide)
  unfold settings document
  rw [hentry]

/-- The document of a library with its widths spelt in another way, if it is a document. -/
theorem document_of_respelt (h : d.Respelt e) (path : Path) : d.document path = e.document path ∨
    ∃ v w, d.document path = .ok (.data v) ∧ e.document path = .ok (.data w) ∧
      v.ObjectVaries LibraryRespelt w := by
  have hentry := lookup_of_respelt h path
  unfold document entry?
  generalize d.entries.lookup path = x, e.entries.lookup path = y at hentry
  cases hentry with
  | none => exact .inl rfl
  | some hentry =>
    cases hentry with
    | same => exact .inl rfl
    | @library _ text other v w _ htext hother h =>
      refine .inr ⟨v, w, ?_, ?_, h⟩
      · simp [htext, Except.mapError]
      · simp [hother, Except.mapError]

theorem componentsIn?_of_respelt (h : v.ObjectVaries LibraryRespelt w) :
    componentsIn? (.data v) = componentsIn? (.data w) ∨ ∃ x y,
      componentsIn? (.data v) = .ok (some (.data x)) ∧
      componentsIn? (.data w) = .ok (some (.data y)) ∧ x.ItemsVary Component.Respelt y := by
  cases h with
  | same => exact .inl rfl
  | @object a b hvary =>
    have hin (given : Fields) : componentsIn? (.data (.object given)) =
        .ok ((given.get? componentsKey).map .data) :=
      congrArg Except.ok (Document.get?_data given componentsKey)
    have hvalue := hvary.get? componentsKey
    rw [hin, hin]
    generalize a.get? componentsKey = x, b.get? componentsKey = y at hvalue
    cases hvalue with
    | none => exact .inl rfl
    | @some x y hvalue =>
      rcases hvalue with rfl | ⟨-, hitems⟩
      · exact .inl rfl
      · exact .inr ⟨x, y, rfl, rfl, hitems⟩

theorem componentsOf_of_respelt (h : d.Respelt e) (path : Path) :
    d.componentsOf path = e.componentsOf path := by
  unfold componentsOf
  rcases document_of_respelt h path with heq | ⟨v, w, hv, hw, hvary⟩
  · rw [heq]
  rw [hv, hw]
  rcases componentsIn?_of_respelt hvary with heq | ⟨x, y, hx, hy, hitems⟩
  · simp only [bind, Except.bind, heq]
  simp only [bind, Except.bind, hx, hy]
  cases hitems with
  | same => rfl
  | list hitems =>
    simp only [Document.members?_data, Datum.members?, Option.map_some, Document.inTurn_fit_data]
    exact congrArg (fitting path) (Component.readEach_of_respelt hitems)

theorem library_of_respelt (h : d.Respelt e) : d.library = e.library := by
  have hpaths : d.libraryPaths = e.libraryPaths := by
    rw [libraryPaths, libraryPaths, names_of_respelt h]
  rw [library, library, hpaths, funext (componentsOf_of_respelt h)]

end Directory

/-! ## Checks -/

namespace Service

theorem load_of_respelt (h : d.Respelt e) (s : Service) : s.load d = s.load e := by
  have hsettings (s : Service) : s.getSettings d = s.getSettings e := by
    rw [getSettings, getSettings, currentSettings, currentSettings, Directory.settings_of_respelt h]
  have hlibrary (s : Service) : s.getLibrary d = s.getLibrary e := by
    rw [getLibrary, getLibrary, currentLibrary, currentLibrary, Directory.library_of_respelt h]
  simp only [load, hsettings, hlibrary]

theorem check_of_respelt [Pattern.Engine] (hd : d.Respelt e) (hq : q.Respelt r) (s : Service)
    (timestamp : String) : s.check timestamp d q = s.check timestamp e r := by
  rw [check, check, Inquiry.components_of_respelt hq, load_of_respelt hd]
  simp only [analyze_of_respelt hq]

end Service

/-! ## Spellings -/

/-- What is read as a width is in normal form and is read as itself again, every spelling of an
integer is read as that integer, and no check depends on how the widths are spelt. -/
theorem width_spellings [Pattern.Engine] :
    (∀ value o, Width.read value = .valid o →
      Width.read (o.elim .null Width.toDatum) = .valid o ∧ ∀ w ∈ o, w.IsNormal) ∧
    (∀ n value, Width.Spells n value → Width.read value = .valid (some (.number n))) ∧
    ∀ d e : Directory, d.Respelt e → ∀ q r : Inquiry, q.Respelt r →
      ∀ (s : Service) (timestamp : String), s.check timestamp d q = s.check timestamp e r := by
  refine ⟨fun value o h => ⟨Width.read_idempotent h, fun w hw => ?_⟩,
    fun n value => Width.read_of_spells,
    fun d e hd q r hq s timestamp => Service.check_of_respelt hd hq s timestamp⟩
  obtain rfl := Option.mem_def.mp hw
  exact Width.isNormal_of_read h

end Engines

/-- A port of an AXI4 component that has its width at a key. -/
def axiPort (id direction key : String) (width : Datum) : Datum :=
  .object [("id", .text id), ("direction", .text direction), ("busType", .text "AXI4"),
    (.text key, width)]

theorem respelt_axiPort {key : String} (id direction : String)
    (h : Interface.Respells key v w) :
    Interface.Respelt (axiPort id direction key v) (axiPort id direction key w) :=
  .object (.cons (.same _) (.cons (.same _) (.cons (.same _) (.cons (.other h) .nil))))

/-- A processor that is wired to a memory of the catalogue. Their ports have these widths. -/
def wiredMemory (processor memory : Datum) : Inquiry where
  diagram := .object
    [("nodes", .list
      [.object [("id", .text "cpu"), ("data", .object
        [("label", .text "CPU"),
         ("interfaces", .list [axiPort "m" "master" "dataWidth" processor])])],
       .object [("id", .text "mem"), ("label", .text "Memory"), ("componentId", .text "ram")]]),
     ("edges", .list [.object [("source", .text "cpu"), ("target", .text "mem")]])]
  catalogue := .list
    [.object [("id", .text "ram"), ("interfaces", .list [axiPort "s" "slave" "width" memory])]]
  checkOptionalPorts := .null

theorem width_spellings_wiredMemory :
    (wiredMemory (.int 64) (.int 32)).Respelt
      (wiredMemory (.text " +064 ") (.float (.finite false 1 5))) ∧
    ∀ (s : Service) (timestamp : String),
      s.check timestamp Directory.empty (wiredMemory (.int 64) (.int 32)) =
        s.check timestamp Directory.empty
          (wiredMemory (.text " +064 ") (.float (.finite false 1 5))) := by
  have hprocessor : Interface.Respelt (axiPort "m" "master" "dataWidth" (.int 64))
      (axiPort "m" "master" "dataWidth" (.text " +064 ")) :=
    respelt_axiPort "m" "master"
      ⟨by decide, 64, .number, Width.spells_text_iff.mpr (by decide +kernel)⟩
  have hmemory : Interface.Respelt (axiPort "s" "slave" "width" (.int 32))
      (axiPort "s" "slave" "width" (.float (.finite false 1 5))) :=
    respelt_axiPort "s" "slave"
      ⟨by decide, 32, .number, .float (Binary64.toInt?_eq_some_iff.mp (by decide))⟩
  have hrespelt : (wiredMemory (.int 64) (.int 32)).Respelt
      (wiredMemory (.text " +064 ") (.float (.finite false 1 5))) := by
    refine ⟨?_, ?_, rfl⟩
    · refine .object (.cons (.other ⟨rfl, .list (.cons ?_ (.cons (.same _) .nil))⟩)
        (.cons (.same _) .nil))
      refine .object (.cons (.same _) (.cons (.other (.inr ⟨rfl, ?_⟩)) .nil))
      exact .object (.cons (.same _) (.cons (.other ⟨rfl, .list (.cons hprocessor .nil)⟩) .nil))
    · refine .list (.cons ?_ .nil)
      exact .object (.cons (.same _) (.cons (.other ⟨rfl, .list (.cons hmemory .nil)⟩) .nil))
  exact ⟨hrespelt, width_spellings.2.2 _ _ .nil _ _ hrespelt⟩

end DesignRules.Server
