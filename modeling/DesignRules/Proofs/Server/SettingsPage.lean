import DesignRules.Proofs.Address
import DesignRules.Proofs.Schema.Writing
import DesignRules.Proofs.Server.Calls
import DesignRules.Proofs.Yaml.Flow
import DesignRules.Server.Call

/-! # The page of the settings

The settings in use are shown as a page that is a valid file of settings: if the engine for YAML
reads what it has written, the same settings come again from every directory with this file.
Only settings with a number too long to be written have no page.
-/

namespace DesignRules

open Schema Schema.Checked

/-! ## Settings as data -/

theorem ReservedRange.read_written {bound : Int → Datum}
    (hbound : ∀ n, address (bound n) = .valid n) (r : ReservedRange) :
    read (.object [("name", .text r.name), ("start", bound r.first), ("end", bound r.last)]) =
      .valid r := by
  have hfirst : required (.same "start") address
      [("name", .text r.name), ("start", bound r.first), ("end", bound r.last)] =
      .valid r.first :=
    required_of_get? rfl (hbound r.first)
  have hlast : required (.same "end") address
      [("name", .text r.name), ("start", bound r.first), ("end", bound r.last)] =
      .valid r.last :=
    required_of_get? rfl (hbound r.last)
  rw [read, fields, andThen, ofFields, hfirst, hlast]
  rfl

namespace Settings

/-- Settings are read as they were written if the bounds of the reserved ranges are. -/
theorem read_toFields {bound : Int → Datum}
    (hbound : ∀ n, ReservedRange.address (bound n) = .valid n) (s : Settings) :
    read (.object (s.toFields bound)) = .valid s := by
  have hranges : optional (.same "reserved_ranges") default.reservedRanges
      (list ReservedRange.read) (s.toFields bound) = .valid s.reservedRanges :=
    optional_of_get? rfl (list_written fun r _ => r.read_written hbound)
  have hwidths : optional (.same "canonical_data_widths") default.canonicalWidths (list integer)
      (s.toFields bound) = .valid s.canonicalWidths :=
    optional_of_get? rfl (list_written fun _ _ => rfl)
  have hcategories : optional (.same "interconnect_categories") default.interconnectCategories
      (list text) (s.toFields bound) = .valid s.interconnectCategories :=
    optional_of_get? rfl (list_texts s.interconnectCategories)
  have hkeywords : optional (.same "interconnect_keywords") default.interconnectKeywords
      (list text) (s.toFields bound) = .valid s.interconnectKeywords :=
    optional_of_get? rfl (list_texts s.interconnectKeywords)
  rw [read, fields, andThen, ofFields, hranges, hwidths, hcategories, hkeywords]
  rfl

/-- The widths and the thresholds have no more digits than are written. The bounds of the reserved
ranges may have any number of them. -/
def HasWritableNumbers (s : Settings) : Prop :=
  (∀ n ∈ s.canonicalWidths, Numeral.isTooLong n = false) ∧
    ∀ n ∈ [s.maxFanout, s.maxPathDepth, s.longPathThreshold], Numeral.isTooLong n = false

/-- All texts in the settings can be printed. -/
def IsPrintable (s : Settings) : Prop :=
  ∀ t ∈ s.reservedRanges.map (·.name) ++ s.interconnectCategories ++ s.interconnectKeywords ++
    [s.namePattern], t.toList.all Text.isPrintable

end Settings

/-! ## The page -/

namespace Server

variable {settings : Settings}

theorem address_paddedHex (n : Int) :
    ReservedRange.address (.text (Numeral.paddedHex n)) = .valid n := by
  rw [ReservedRange.address, Address.read_of_ofText? (Address.ofText?_paddedHex n)]

theorem fieldsAreWritable_settingsFields_iff :
    Datum.fieldsAreWritable (Call.settingsFields settings) ↔ settings.HasWritableNumbers := by
  simp [Call.settingsFields, Settings.toFields, Datum.fieldsAreWritable_iff, Datum.isWritable,
    Datum.areWritable_iff, Datum.texts, Scalar.isWritable, Settings.HasWritableNumbers]

/-! ### Plain data -/

theorem isPrintable_paddedHex (n : Int) :
    (Numeral.paddedHex n).toList.all Text.isPrintable := by
  have hdigit : ∀ d < 16, Text.isPrintable (Numeral.capitalDigitChar d) := by decide +kernel
  have hmark : ['0', 'x', '-'].all Text.isPrintable := by decide +kernel
  rw [List.all_eq_true] at hmark ⊢
  intro c hc
  have hcase : c ∈ ['0', 'x', '-'] ∨
      c ∈ (Numeral.digits 16 n.natAbs).map Numeral.capitalDigitChar := by
    simp only [Numeral.paddedHex, Numeral.padZeros, String.toList_ofList] at hc
    grind
  rcases hcase with hc | hc
  · exact hmark c hc
  · obtain ⟨d, hd, rfl⟩ := List.mem_map.mp hc
    exact hdigit d (Numeral.lt_of_mem_digits (by omega) hd)

theorem isPlain_list_map {α : Type} {l : List α} {f : α → Datum} (h : ∀ a ∈ l, (f a).IsPlain) :
    (Datum.list (l.map f)).IsPlain :=
  .list _ (List.forall_mem_map.mpr h)

theorem isPlain_texts {items : List String}
    (h : ∀ s ∈ items, s.toList.all Text.isPrintable) : (Datum.texts items).IsPlain :=
  isPlain_list_map fun s hs => .text s (h s hs)

/-- An object with texts for keys is plain if its values are. -/
theorem isPlain_object {given : Fields} (keys : List String)
    (hkeys : given.map (·.1) = keys.map Scalar.text) (hnodup : keys.Nodup)
    (hprintable : ∀ key ∈ keys, key.toList.all Text.isPrintable)
    (h : ∀ field ∈ given, field.2.IsPlain) : (Datum.object given).IsPlain := by
  have hkey : ∀ field ∈ given, ∃ key ∈ keys, .text key = field.1 := by
    intro field hfield
    rw [← List.mem_map, ← hkeys]
    exact List.mem_map_of_mem hfield
  have htexts : given.HasTextKeys := by
    constructor
    · intro field hfield
      obtain ⟨key, -, heq⟩ := hkey field hfield
      exact ⟨key, heq.symm⟩
    · rw [hkeys]
      exact List.pairwise_map.mpr (hnodup.imp fun hne heq => hne (Scalar.text.inj heq))
  apply Datum.IsPlain.object given htexts _ h
  intro field hfield
  obtain ⟨key, hmem, heq⟩ := hkey field hfield
  exact heq ▸ .text key (hprintable key hmem)

theorem isPlain_range (r : ReservedRange) (h : r.name.toList.all Text.isPrintable) :
    (Datum.object [("name", .text r.name), ("start", .text (Numeral.paddedHex r.first)),
      ("end", .text (Numeral.paddedHex r.last))]).IsPlain := by
  apply isPlain_object ["name", "start", "end"] rfl (by decide) (by decide +kernel)
  simp only [List.forall_mem_cons, List.not_mem_nil, false_imp_iff, implies_true, and_true]
  exact ⟨.text _ h, .text _ (isPrintable_paddedHex _), .text _ (isPrintable_paddedHex _)⟩

theorem isPlain_settingsFields (hwritable : settings.HasWritableNumbers)
    (hprintable : settings.IsPrintable) :
    (Datum.object (Call.settingsFields settings)).IsPlain := by
  obtain ⟨hwidths, hthresholds⟩ := hwritable
  simp only [List.forall_mem_cons, List.not_mem_nil, false_imp_iff, implies_true, and_true]
    at hthresholds
  obtain ⟨hfanout, hdepth, hpaths⟩ := hthresholds
  simp only [Settings.IsPrintable, List.forall_mem_append, List.forall_mem_singleton,
    List.forall_mem_map] at hprintable
  obtain ⟨⟨⟨hnames, hcategories⟩, hkeywords⟩, hpattern⟩ := hprintable
  apply isPlain_object ["settings"] rfl (by decide) (by decide +kernel)
  simp only [Call.settingsFields, List.forall_mem_singleton]
  apply isPlain_object ["reserved_ranges", "canonical_data_widths", "interconnect_categories",
    "interconnect_keywords", "max_interconnect_fanout", "max_path_depth", "long_path_threshold",
    "interface_name_pattern"] rfl (by decide) (by decide +kernel)
  simp only [Settings.toFields, List.forall_mem_cons, List.not_mem_nil, false_imp_iff, implies_true,
    and_true]
  exact ⟨isPlain_list_map fun r hr => isPlain_range r (hnames r hr),
    isPlain_list_map fun n hn => .int n (hwidths n hn), isPlain_texts hcategories,
    isPlain_texts hkeywords, .int _ hfanout, .int _ hdepth, .int _ hpaths, .text _ hpattern⟩

/-! ### Reading the page back -/

section Engines

variable [Yaml.Engine]

theorem settingsIn_settingsFields (settings : Settings) :
    Directory.settingsIn (.data (.object (Call.settingsFields settings))) = .valid settings := by
  have hread := Settings.read_toFields address_paddedHex settings
  have hsettings : Yaml.Document.get? (.data (.object (Call.settingsFields settings))) "settings" =
      some (.data (.object (settings.toFields fun n => .text (Numeral.paddedHex n)))) := by
    rw [Yaml.Document.get?_data]
    rfl
  have hgiven (given : Fields) (hne : given.isEmpty = false) :
      Directory.orEmpty (.data (.object given)) = .data (.object given) := by
    simp [Directory.orEmpty, Yaml.Document.isTrue_data, Datum.isTrue, hne]
  rw [Directory.settingsIn, hgiven _ rfl, hsettings, Option.getD_some, hgiven _ rfl]
  exact hread

theorem settings_of_file {d : Directory} {text : String}
    {document : Yaml.Document Yaml.Engine.Other}
    (hfile : d.entry? Directory.settingsPath = some (.file text))
    (hload : Yaml.Engine.load text = .ok document)
    (hvalid : Directory.settingsIn document = .valid settings) : d.settings = .ok settings := by
  have hdocument : d.document Directory.settingsPath = .ok document := by
    simp [Directory.document, hfile, hload, Except.mapError]
  rw [Directory.settings, if_neg (by simp [hfile]), hdocument]
  exact congrArg (Directory.fitting Directory.settingsPath) hvalid

theorem page_of_hasWritableNumbers (h : settings.HasWritableNumbers) :
    Call.page (Call.settingsFields settings) =
      .ok (.text (Yaml.Engine.dump (Call.settingsFields settings))) :=
  if_pos (fieldsAreWritable_settingsFields_iff.mpr h)

theorem page_of_not_hasWritableNumbers (h : ¬ settings.HasWritableNumbers) :
    Call.page (Call.settingsFields settings) = .error .unwritable :=
  if_neg (mt fieldsAreWritable_settingsFields_iff.mp h)

variable [Pattern.Engine] {service : Service} {d : Directory} {timestamp : String}

theorem snd_answer_settingsPage (hcurrent : service.currentSettings d = .ok settings) :
    (service.answer timestamp d .settingsPage).2 = Call.page (Call.settingsFields settings) := by
  simp [Service.answer, Service.getSettings_of_ok hcurrent, Call.settingsAnswer]

/-- **The page of the settings is a file of the same settings.** For an engine that reads plain data
as it has written them, settings with printable texts come again from every directory that holds
their page, and they have one unless a width or a threshold is too long to be written. The bounds of
the reserved ranges may be any integers; hexadecimal numerals are read for what they are. -/
theorem settings_of_settingsPage (hinverts : Yaml.Engine.Inverts)
    (hcurrent : service.currentSettings d = .ok settings) :
    (settings.HasWritableNumbers → (service.answer timestamp d .settingsPage).2 =
      .ok (.text (Yaml.Engine.dump (Call.settingsFields settings)))) ∧
    (¬ settings.HasWritableNumbers →
      (service.answer timestamp d .settingsPage).2 = .error .unwritable) ∧
    (settings.IsPrintable → ∀ page,
      (service.answer timestamp d .settingsPage).2 = .ok (.text page) →
      ∀ d' : Directory, d'.entry? Directory.settingsPath = some (.file page) →
        d'.settings = .ok settings) ∧
    ∀ n, Address.read (.text (Numeral.paddedHex n)) = .ok n ∧
      Address.read (.text (Numeral.hex n)) = .ok n := by
  rw [snd_answer_settingsPage hcurrent]
  refine ⟨page_of_hasWritableNumbers, page_of_not_hasWritableNumbers,
    fun hprintable page hpage d' hfile => ?_, fun n => ?_⟩
  · by_cases hwritable : settings.HasWritableNumbers
    · rw [page_of_hasWritableNumbers hwritable, Except.ok.injEq] at hpage
      cases hpage
      exact settings_of_file hfile (hinverts _ (isPlain_settingsFields hwritable hprintable))
        (settingsIn_settingsFields settings)
    · rw [page_of_not_hasWritableNumbers hwritable] at hpage
      cases hpage
  · exact ⟨Address.read_of_ofText? (Address.ofText?_paddedHex n),
      Address.read_of_ofText? (Address.ofText?_hex n)⟩

end Engines

/-- A range below zero and one beyond 64 bits. -/
def distantRanges : Settings where
  reservedRanges := [⟨"Below", -0x1f, -1⟩, ⟨"Beyond", 0x10000000000000000, 0x1ffffffffffffffff⟩]
  canonicalWidths := [8, 16]
  interconnectCategories := []
  interconnectKeywords := ["crossbar"]
  maxFanout := -1
  maxPathDepth := 0
  longPathThreshold := 4
  namePattern := "[a-z]+"

def distantRangesLines : List String :=
  ["settings:",
   "  reserved_ranges:",
   "  - name: Below",
   "    start: 0x-000001F",
   "    end: 0x-0000001",
   "  - name: Beyond",
   "    start: '0x10000000000000000'",
   "    end: '0x1FFFFFFFFFFFFFFFF'",
   "  canonical_data_widths:",
   "  - 8",
   "  - 16",
   "  interconnect_categories: []",
   "  interconnect_keywords:",
   "  - crossbar",
   "  max_interconnect_fanout: -1",
   "  max_path_depth: 0",
   "  long_path_threshold: 4",
   "  interface_name_pattern: '[a-z]+'"]

def distantRangesPage : String :=
  String.ofList (distantRangesLines.flatMap fun line => line.toList ++ ['\n'])

theorem writeChecked_distantRanges :
    Yaml.writeChecked (Call.settingsFields distantRanges) = distantRangesPage := by
  have hpage : Yaml.fieldLines 0 (Call.settingsFields distantRanges) ++ ['\n'] =
        distantRangesLines.flatMap (fun line => line.toList ++ ['\n']) ∧
      (Yaml.readAny distantRangesPage).toOption =
        some (.object (Call.settingsFields distantRanges)) := by
    rw [distantRangesPage, Yaml.readAny, Yaml.read, String.toList_ofList]
    decide +kernel
  obtain ⟨hchars, hread⟩ := hpage
  have hwrite : Yaml.write (Call.settingsFields distantRanges) = distantRangesPage := by
    rw [Yaml.write, hchars, distantRangesPage]
  rw [Yaml.writeChecked, hwrite, if_pos hread]

theorem settings_of_settingsPage_distantRanges :
    @Yaml.Engine.Inverts Yaml.checkedEngine ∧
    @Service.currentSettings Yaml.checkedEngine .empty ⟨false, some distantRanges, none⟩ =
      .ok distantRanges ∧
    (@Service.answer Yaml.checkedEngine _ "" .empty ⟨false, some distantRanges, none⟩
      .settingsPage).2 = .ok (.text distantRangesPage) ∧
    @Directory.settings Yaml.checkedEngine
      (.ofFiles [(Directory.settingsPath, distantRangesPage)]) = .ok distantRanges := by
  have hwritable : distantRanges.HasWritableNumbers := by constructor <;> decide +kernel
  have hprintable : distantRanges.IsPrintable := by
    unfold Settings.IsPrintable
    decide +kernel
  have hcurrent : @Service.currentSettings Yaml.checkedEngine .empty
      ⟨false, some distantRanges, none⟩ = .ok distantRanges := rfl
  obtain ⟨hpage, -, hback, -⟩ := @settings_of_settingsPage distantRanges Yaml.checkedEngine _
    ⟨false, some distantRanges, none⟩ .empty "" Yaml.inverts_checkedEngine hcurrent
  have hdump : @Yaml.Engine.dump Yaml.checkedEngine (Call.settingsFields distantRanges) =
      distantRangesPage :=
    writeChecked_distantRanges
  rw [hdump] at hpage
  exact ⟨Yaml.inverts_checkedEngine, hcurrent, hpage hwritable,
    hback hprintable _ (hpage hwritable) _ rfl⟩

/-- The settings by default, but with a depth of more than 4300 digits. -/
def vastDepth : Settings := { Settings.default with maxPathDepth := Int.pow 16 3600 }

/-- Settings with printable texts for which there is no page. -/
theorem settingsPage_vastDepth_fails : vastDepth.IsPrintable ∧
    Service.currentSettings .empty ⟨false, some vastDepth, none⟩ = .ok vastDepth ∧
    (Service.answer "" .empty ⟨false, some vastDepth, none⟩ .settingsPage).2 =
      .error .unwritable := by
  have hprintable : vastDepth.IsPrintable := by
    unfold Settings.IsPrintable
    decide +kernel
  have hunwritable : ¬ vastDepth.HasWritableNumbers := by
    have hlong : Numeral.isTooLong vastDepth.maxPathDepth := by decide +kernel
    exact fun h => by simp [h.2 vastDepth.maxPathDepth (by simp)] at hlong
  refine ⟨hprintable, rfl, ?_⟩
  rw [snd_answer_settingsPage rfl]
  exact page_of_not_hasWritableNumbers hunwritable

end Server

end DesignRules
