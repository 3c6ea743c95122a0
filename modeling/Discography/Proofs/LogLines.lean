import Discography.Log.Root
import Discography.Proofs.LogMembers

/-!
# Lines of a log

A record whose texts are texts is written as one line, which shows what there is to show of the
record and nothing else. The lines of a log are the lines of the records that are written to it.

* `Record.Surfaces` — what a record shows; `Record.jsonLine_eq` — its line shows this.
* `Record.surfaces_ofEvent` — the records of the catalog's own events show these as they are.
* `Record.jsonLine_unforgeable` — two lines agree exactly if all agrees that is shown.
* `Root.log_inj` — two logs agree exactly if the records that are written show the same in turn.
-/

set_option autoImplicit false

namespace Discography.Log

open Discography.Calendar Discography.Json Discography.Text

/-! ## What a record shows -/

/-- What is shown of a field of a record that is absent, null or a text. -/
inductive Given : Option Value → Option String → Prop
  | absent : Given none none
  | null : Given (some .null) none
  | text (t : String) : Given (some (.text t)) (some t)

namespace Record

/-- What the line of a record shows, if it has one. -/
structure Surfaces (r : Record) (x : Surface) : Prop where
  timestamp : r.created.stamp = .ok x.timestamp
  level : r.levelName = .text x.level
  logger : r.logger = .text x.logger
  path : r.path = .text x.path
  line : r.line = .integer x.line
  message : r.text = .ok x.message
  extras : ∀ f ∈ x.extras.fields, Given (last? f.1 r.fields) f.2
  exception : r.handled.text? = x.exception

/-- A record with texts where texts are due. -/
structure Textual (r : Record) : Prop where
  level : ∃ t, r.levelName = .text t
  logger : ∃ t, r.logger = .text t
  path : ∃ t, r.path = .text t
  line : ∃ n, r.line = .integer n
  extras : ∀ name ∈ extraNames, ∃ t, Given (last? name r.fields) t

variable {r : Record} {x : Surface} {line : String}

theorem surfaced_eq (h : r.Surfaces x) : r.surfaced = textMembers x.extras.fields := by
  unfold surfaced textMembers
  rw [← x.extras.fields_names, List.filterMap_map]
  refine List.filterMap_congr fun f hf => ?_
  have hgiven := h.extras f hf
  simp only [Function.comp_apply]
  generalize last? f.1 r.fields = found at hgiven ⊢
  generalize f.2 = shown at hgiven ⊢
  cases hgiven with
  | absent => rfl
  | null => rfl
  | text t => rfl

theorem members_eq (h : r.Surfaces x) : r.members x.timestamp.fullText x.message = x.members := by
  have hfields : textMembers x.fields =
      textMembers x.extras.fields ++ textMembers [("exception", x.exception)] :=
    List.filterMap_append
  have hexception : (x.exception.map fun t => ("exception", Value.text t)).toList =
      textMembers [("exception", x.exception)] := by
    cases x.exception <;> rfl
  unfold members Surface.members
  rw [surfaced_eq h, h.level, h.logger, h.path, h.line, h.exception, hfields, hexception,
    List.append_assoc]
  rfl

/-- **A record is written as the line of what it shows.** -/
theorem jsonLine_eq (h : r.Surfaces x) : r.jsonLine = .ok x.text := by
  unfold jsonLine Surface.text
  rw [h.timestamp, h.message, ← members_eq h]
  rfl

/-- Fields that are absent, null or texts are the extras of an event. -/
theorem exists_extras {ms : List (String × Value)}
    (h : ∀ name ∈ extraNames, ∃ t, Given (last? name ms) t) :
    ∃ x : Extras, ∀ f ∈ x.fields, Given (last? f.1 ms) f.2 := by
  obtain ⟨error, herror⟩ := h "error" (by decide)
  obtain ⟨code, hcode⟩ := h "error_code" (by decide)
  obtain ⟨album, halbum⟩ := h "album_id" (by decide)
  obtain ⟨route, hroute⟩ := h "path" (by decide)
  obtain ⟨method, hmethod⟩ := h "method" (by decide)
  obtain ⟨operation, hoperation⟩ := h "operation" (by decide)
  refine ⟨⟨error, code, album, route, method, operation⟩, fun f hf => ?_⟩
  simp only [Extras.fields, List.mem_cons, List.not_mem_nil, or_false] at hf
  rcases hf with rfl | rfl | rfl | rfl | rfl | rfl
  · exact herror
  · exact hcode
  · exact halbum
  · exact hroute
  · exact hmethod
  · exact hoperation

/-- A record that can be written shows something. -/
theorem exists_surfaces (ht : r.Textual) (h : r.jsonLine = .ok line) : ∃ x, r.Surfaces x := by
  obtain ⟨level, hlevel⟩ := ht.level
  obtain ⟨logger, hlogger⟩ := ht.logger
  obtain ⟨path, hpath⟩ := ht.path
  obtain ⟨number, hnumber⟩ := ht.line
  obtain ⟨extras, hextras⟩ := exists_extras ht.extras
  unfold jsonLine at h
  cases hstamp : r.created.stamp with
  | error f =>
    rw [hstamp] at h
    cases h
  | ok stamp =>
    cases hmessage : r.text with
    | error f =>
      rw [hstamp, hmessage] at h
      cases h
    | ok message =>
      exact ⟨⟨stamp, level, logger, path, number, message, extras, r.handled.text?⟩, hstamp,
        hlevel, hlogger, hpath, hnumber, hmessage, hextras, rfl⟩

/-! ## Records of events -/

theorem given_ofText? (t : Option String) : Given (some (Value.ofText? t)) t := by
  cases t with
  | none => exact .null
  | some s => exact .text s

/-- **The record of an event shows it as it is**, with the name of its level. -/
theorem surfaces_ofEvent {e : Event} {path : String} {number : Int} {created : Moment}
    {handled : Handled} {stamp : Stamp} (h : created.stamp = .ok stamp) :
    (ofEvent e path number created handled).Surfaces
      ⟨stamp, e.level.name, e.logger, path, number, e.message, e.extras, handled.text?⟩ where
  timestamp := h
  level := by
    show Value.text (Log.levelName e.level.number) = .text e.level.name
    cases e.level <;> rfl
  logger := rfl
  path := rfl
  line := rfl
  message := rfl
  extras := by
    intro f hf
    have hnodup : ((e.extras.fields.map fun f => (f.1, Value.ofText? f.2)).map Prod.fst).Nodup := by
      rw [List.map_map]
      exact (show extraNames.Nodup by decide)
    have hfield : (f.1, Value.ofText? f.2) ∈
        e.extras.fields.map fun f => (f.1, Value.ofText? f.2) := List.mem_map.2 ⟨f, hf, rfl⟩
    have hlast : last? f.1 (ofEvent e path number created handled).fields =
        some (Value.ofText? f.2) := last?_eq_iff.2 (counts_of_mem hnodup hfield)
    rw [hlast]
    exact given_ofText? f.2
  exception := rfl

theorem Surfaces.textual (h : r.Surfaces x) : r.Textual where
  level := ⟨_, h.level⟩
  logger := ⟨_, h.logger⟩
  path := ⟨_, h.path⟩
  line := ⟨_, h.line⟩
  extras := by
    intro name hname
    rw [← x.extras.fields_names] at hname
    obtain ⟨f, hf, rfl⟩ := List.mem_map.1 hname
    exact ⟨f.2, h.extras f hf⟩

/-! ## No forgery -/

/-- **The line of a record cannot be forged.** If a record has texts where texts are due and can be
written, then no control character stands in its line, and within any limits the line is read back
as one object, whose members have different names: the timestamp, the level, the logger, the source
and the message of the record, then the further fields that are not missing in their order, and then
the report on a failure, if there is one. Nothing else of the record makes a difference: the line is
the same as the one of another such record exactly if they agree in all this. -/
theorem jsonLine_unforgeable (r : Record) (line : String) (htextual : r.Textual)
    (hline : r.jsonLine = .ok line) :
    (∀ c ∈ line.toList, ' ' ≤ c) ∧
    ∃ x : Surface, r.Surfaces x ∧
      (∀ limits : Limits, 0 < limits.depth → 0 < limits.digits →
        read? limits line = some (.object
          ([("timestamp", .text x.timestamp.fullText), ("level", .text x.level),
            ("logger", .text x.logger),
            ("source", .text (x.path ++ ":" ++ signedDecimal x.line)),
            ("message", .text x.message)] ++
            x.extras.fields.filterMap (fun f => f.2.map fun t => (f.1, .text t)) ++
            (x.exception.map fun t => ("exception", .text t)).toList))) ∧
      (x.members.map Prod.fst).Nodup ∧
      ∀ (r' : Record) (line' : String), r'.Textual → r'.jsonLine = .ok line' →
        ∃ x', r'.Surfaces x' ∧ (line' = line ↔ x' = x) := by
  obtain ⟨x, hx⟩ := exists_surfaces htextual hline
  rw [jsonLine_eq hx] at hline
  obtain rfl := Except.ok.inj hline
  refine ⟨fun c hc => x.space_le_of_mem_text hc, x, hx, ?members, x.nodup_names, ?others⟩
  case members =>
    intro limits hdepth hdigits
    rw [x.read?_text hdepth hdigits, ← members_eq hx]
    unfold members
    rw [surfaced_eq hx, hx.level, hx.logger, hx.path, hx.line, hx.exception]
    rfl
  case others =>
    intro r' line' htextual' hline'
    obtain ⟨x', hx'⟩ := exists_surfaces htextual' hline'
    rw [jsonLine_eq hx'] at hline'
    obtain rfl := Except.ok.inj hline'
    exact ⟨x', hx', Surface.text_injective.eq_iff⟩

/-- A report with a text that looks like the end of a line and the beginning of another one. -/
theorem jsonLine_unforgeable_forgery :
    let e : Event := { level := .error, logger := "catalog", message := "call failed",
                       extras := { error := some "\"\x7d\r\n\x7b\"level\":\"INFO" } }
    let r := ofEvent e "/app:1/store.py" 7 (.whole 0) .nothing
    let line := "\x7b\"timestamp\": \"1970-01-01T00:00:00+00:00\", \"level\": \"ERROR\", " ++
      "\"logger\": \"catalog\", \"source\": \"/app:1/store.py:7\", " ++
      "\"message\": \"call failed\", " ++
      "\"error\": \"\\\"\x7d\\r\\n\x7b\\\"level\\\":\\\"INFO\", " ++
      "\"exception\": \"NoneType: None\"\x7d"
    r.Textual ∧ r.jsonLine = .ok line ∧ ∀ c ∈ line.toList, ' ' ≤ c := by
  intro e r line
  have hstamp : Moment.stamp (.whole 0) = .ok (.utc ⟨719162 * dayMicros, by decide⟩) := by
    decide +kernel
  have htextual : r.Textual := (surfaces_ofEvent hstamp).textual
  have hline : r.jsonLine = .ok line := by decide +kernel
  exact ⟨htextual, hline, (jsonLine_unforgeable r line htextual hline).1⟩

end Record

/-! ## Logs -/

/-- Lines that are each ended by a line feed. -/
def linesText (xs : List Surface) : List Char := xs.flatMap fun x => x.text.toList ++ ['\n']

/-- Lines tell what they show, one after the other. -/
theorem linesText_injective : Function.Injective linesText := by
  have hfree (x : Surface) : '\n' ∉ x.text.toList := by
    intro h
    exact absurd (x.space_le_of_mem_text h) (by decide)
  have hcons (x : Surface) (xs : List Surface) :
      linesText (x :: xs) = x.text.toList ++ '\n' :: linesText xs := by
    simp [linesText]
  intro xs ys h
  induction xs generalizing ys with
  | nil =>
    cases ys with
    | nil => rfl
    | cons y ys =>
      rw [hcons] at h
      simp [linesText] at h
  | cons x xs ih =>
    cases ys with
    | nil =>
      rw [hcons] at h
      simp [linesText] at h
    | cons y ys =>
      rw [hcons, hcons] at h
      obtain ⟨hfirst, hrest⟩ := append_first_inj h (hfree x) (hfree y)
      rw [Surface.text_injective (String.toList_inj.1 hfirst), ih hrest]

namespace Root

variable {root : Root} {rs rs' : List Record} {xs xs' : List Surface}

/-- What is written for records in turn. -/
def log (root : Root) (rs : List Record) : String := String.join (rs.map root.write)

/-- The records that are written. -/
def enabled (root : Root) (rs : List Record) : List Record :=
  rs.filter fun r => root.isEnabled r.level

theorem write_json {r : Record} {x : Surface} (hroot : root.handlers = [.json])
    (h : r.Surfaces x) (henabled : root.isEnabled r.level = true) :
    root.write r = x.text ++ "\n" := by
  have hforms : root.formsFor r.level = [.json] := by
    simp [formsFor, henabled, hroot]
  have hwrite : Form.json.write r = .ok x.text := Record.jsonLine_eq h
  simp [write, hforms, hwrite, Except.toOption]

theorem write_of_not_enabled {r : Record} (henabled : ¬ root.isEnabled r.level = true) :
    root.write r = "" := by
  have hforms : root.formsFor r.level = [] := if_pos (by simpa using henabled)
  simp [write, hforms]

/-- A log has the lines of the records that are written. -/
theorem log_eq (hroot : root.handlers = [.json])
    (h : List.Forall₂ Record.Surfaces (root.enabled rs) xs) :
    (root.log rs).toList = linesText xs := by
  induction rs generalizing xs with
  | nil =>
    cases h
    rfl
  | cons r rs ih =>
    have hlog : (root.log (r :: rs)).toList = (root.write r).toList ++ (root.log rs).toList := by
      simp [log]
    rw [hlog]
    by_cases henabled : root.isEnabled r.level = true
    · have hkept : root.enabled (r :: rs) = r :: root.enabled rs :=
        List.filter_cons_of_pos (p := fun r : Record => root.isEnabled r.level) henabled
      rw [hkept] at h
      cases h with
      | cons hx hxs =>
        rw [write_json hroot hx henabled, ih hxs]
        simp [linesText]
    · have hkept : root.enabled (r :: rs) = root.enabled rs :=
        List.filter_cons_of_neg (p := fun r : Record => root.isEnabled r.level) henabled
      rw [hkept] at h
      rw [write_of_not_enabled henabled, ih h]
      rfl

/-- **No log can be forged.** Two logs agree exactly if the records that are written show the same,
one after the other. -/
theorem log_inj (hroot : root.handlers = [.json])
    (h : List.Forall₂ Record.Surfaces (root.enabled rs) xs)
    (h' : List.Forall₂ Record.Surfaces (root.enabled rs') xs') :
    root.log rs = root.log rs' ↔ xs = xs' := by
  rw [← String.toList_inj, log_eq hroot h, log_eq hroot h']
  exact linesText_injective.eq_iff

end Root

end Discography.Log
