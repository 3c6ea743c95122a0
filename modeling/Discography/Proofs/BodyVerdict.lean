import Discography.Proofs.SentBack

/-!
# One verdict on a body

A request that adds an album and one that changes an album read the same bodies and check them in
the same way, so that they refuse the same bodies with the same answer. What they refuse a draft for
is told field by field.

* `Draft.Fault` — what can be wrong with each field of a draft; `mem_problems_iff`,
  `nodup_problems`: a draft has a problem for every such field and no other.
* `lookup_problems_congr` — the problem of a field depends on that field.
* `Judges` — how a body is answered; `judges_create`, `judges_change`: both requests answer it so.
  `Judges.malformed_iff`, `Judges.refusal_iff` and `Judges.agree` say what follows.
* `create_and_change_agree` — they agree on every body.
-/

set_option autoImplicit false

namespace Discography

/-! ## Problems -/

namespace Draft

/-- What can be wrong with a title or an artist. -/
inductive TextFault (s : String) : String → Prop
  | empty (length : s.length = 0) : TextFault s "is empty"
  | long (length : 255 < s.length) : TextFault s "is longer than 255 characters"

/-- What can be wrong with a price. -/
inductive PriceFault (price : Int) : String → Prop
  | low (value : price ≤ 0) : PriceFault price "is not greater than zero"

/-- A field of a draft, and what is wrong with it. -/
inductive Fault (d : Draft) : String → String → Prop
  | title {words : String} (fault : TextFault d.title words) : Fault d "title" words
  | artist {words : String} (fault : TextFault d.artist words) : Fault d "artist" words
  | price {words : String} (fault : PriceFault d.price words) : Fault d "price" words

theorem textProblem?_eq_some_iff {s words : String} :
    textProblem? s = some words ↔ TextFault s words := by
  unfold textProblem? maxTextLength
  constructor
  · intro h
    split at h
    · rename_i hlength
      cases h
      exact .empty hlength
    · split at h
      · rename_i hlength
        cases h
        exact .long hlength
      · cases h
  · intro h
    cases h with
    | empty length => rw [if_pos length]
    | long length => rw [if_neg (by omega), if_pos length]

theorem priceProblem?_eq_some_iff {price : Int} {words : String} :
    priceProblem? price = some words ↔ PriceFault price words := by
  unfold priceProblem?
  constructor
  · intro h
    split at h
    · rename_i hvalue
      cases h
      exact .low hvalue
    · cases h
  · intro h
    cases h with
    | low value => rw [if_pos value]

/-- A draft has a problem for every field that something is wrong with, and no other. -/
theorem mem_problems_iff {d : Draft} {field words : String} :
    (field, words) ∈ d.problems ↔ d.Fault field words := by
  have hpart {name : String} {found : Option String} :
      (field, words) ∈ (found.map fun p => (name, p)).toList ↔
        field = name ∧ found = some words := by
    cases found <;> simp [eq_comm]
  unfold problems
  rw [List.mem_append, List.mem_append, hpart, hpart, hpart, textProblem?_eq_some_iff,
    textProblem?_eq_some_iff, priceProblem?_eq_some_iff]
  constructor
  · rintro ((⟨rfl, fault⟩ | ⟨rfl, fault⟩) | ⟨rfl, fault⟩)
    · exact .title fault
    · exact .artist fault
    · exact .price fault
  · intro h
    cases h with
    | title fault => exact .inl (.inl ⟨rfl, fault⟩)
    | artist fault => exact .inl (.inr ⟨rfl, fault⟩)
    | price fault => exact .inr ⟨rfl, fault⟩

theorem problems_ne_nil_iff {d : Draft} :
    d.problems ≠ [] ↔ ∃ field words, d.Fault field words := by
  constructor
  · intro h
    obtain ⟨⟨field, words⟩, hm⟩ := List.exists_mem_of_ne_nil _ h
    exact ⟨field, words, mem_problems_iff.1 hm⟩
  · rintro ⟨field, words, h⟩
    exact List.ne_nil_of_mem (mem_problems_iff.2 h)

section Lookup

variable (d : Draft)

/-- No field has two problems. -/
theorem nodup_problems : (d.problems.map Prod.fst).Nodup := by
  unfold problems
  cases textProblem? d.title <;> cases textProblem? d.artist <;> cases priceProblem? d.price <;>
    simp

/-- The problem of each field. -/
theorem lookup_problems : d.problems.lookup "title" = textProblem? d.title ∧
    d.problems.lookup "artist" = textProblem? d.artist ∧
    d.problems.lookup "price" = priceProblem? d.price := by
  unfold problems
  cases textProblem? d.title <;> cases textProblem? d.artist <;> cases priceProblem? d.price <;>
    exact ⟨rfl, rfl, rfl⟩

/-- The problem of a field depends on that field alone. -/
theorem lookup_problems_congr (d' : Draft) :
    (d'.title = d.title → d'.problems.lookup "title" = d.problems.lookup "title") ∧
      (d'.artist = d.artist → d'.problems.lookup "artist" = d.problems.lookup "artist") ∧
      (d'.price = d.price → d'.problems.lookup "price" = d.problems.lookup "price") := by
  obtain ⟨htitle, hartist, hprice⟩ := d.lookup_problems
  obtain ⟨htitle', hartist', hprice'⟩ := d'.lookup_problems
  rw [htitle, hartist, hprice, htitle', hartist', hprice']
  exact ⟨congrArg textProblem?, congrArg textProblem?, congrArg priceProblem?⟩

end Lookup

end Draft

/-! ## Answers -/

namespace Api

open Discography.Calendar Discography.Store Discography.Http

/-- The answer to a draft that has problems. -/
def refusal (problems : Problems) : Response :=
  .json 400 (.object [("message", .text "invalid request body"),
    ("problems", .object (problems.map fun p => (p.1, .text p.2)))])

theorem refusal_inj {problems problems' : Problems} :
    refusal problems = refusal problems' ↔ problems = problems' := by
  constructor
  · intro h
    have hmap : problems.map (fun p => (p.1, Json.Value.text p.2)) =
        problems'.map fun p => (p.1, Json.Value.text p.2) := by
      simpa [refusal, Response.json] using h
    refine List.map_injective_iff.2 ?_ hmap
    rintro ⟨field, words⟩ ⟨field', words'⟩ h
    simpa using h
  · rintro rfl
    rfl

/-- How a request is answered that a body is read and checked for, up to what it does with a draft
that has no problems. -/
structure Judges (body : ByteArray) (success : Int) (answer : Response) : Prop where
  malformed : ∀ f, Draft.parse body = .error f → answer = .message 400 "malformed request body"
  invalid : ∀ d, Draft.parse body = .ok d → d.problems ≠ [] → answer = refusal d.problems
  valid : ∀ d, Draft.parse body = .ok d → d.problems = [] → answer.status = success

section Judges

variable {s : Supply} {w : World Database} {t : Table} {r : Request}

/-- A stamp that the calendar has at UTC. -/
theorem exists_toUtc? {now : Stamp} (h : now.toUtc? ≠ none) : ∃ wall, now.toUtc? = some wall :=
  Option.ne_none_iff_exists'.1 h

theorem judges_create (hw : w.store = .table t) (hm : r.method = "POST") (hp : r.path = "/albums")
    (hfree : t.find? (s.ids w.draws) = none) (hclock : (s.clock w.readings).toUtc? ≠ none) :
    Judges r.body 201 (serve .database s catalog r w).value := by
  obtain ⟨d, n, k⟩ := w
  cases hw
  have h := find_createAlbum hm hp
  refine ⟨fun f hr => ?_, fun d hr hne => ?_, fun d hr hnil => ?_⟩
  · rw [(serve_of_comes h (comes_create_malformed hr)).1, parse_draft_error hr]
    rfl
  · have hv : ¬ (catalog.validator d).isEmpty = true := fun hv => hne (List.isEmpty_iff.1 hv)
    rw [(serve_of_comes h (comes_create_invalid rfl hr hv)).1]
    rfl
  · have hv : (catalog.validator d).isEmpty = true := List.isEmpty_iff.2 hnil
    obtain ⟨wall, hwall⟩ := exists_toUtc? hclock
    have hrow : Row.ofAlbum? (Album.create (s.ids k) d (s.clock n)) =
        some ⟨s.ids k, d.title, d.artist, d.price, wall, wall⟩ :=
      Row.ofAlbum?_eq_some_iff.2 ⟨rfl, rfl, rfl, rfl, hwall, hwall⟩
    have hc := Database.perform_insert_new hrow (fitsInt64_of_parse hr) hfree
    rw [(serve_of_comes h (comes_create rfl hr hv hc)).1]
    rfl

theorem judges_change {u : AlbumId} {old : Row} (hw : w.store = .table t) (hm : r.method = "PUT")
    (hn : named? r = some u) (hfound : t.find? u = some old)
    (hclock : (s.clock w.readings).toUtc? ≠ none) :
    Judges r.body 200 (serve .database s catalog r w).value := by
  obtain ⟨raw, hseg, hread⟩ := Option.bind_eq_some_iff.1 hn
  have h := find_updateAlbum hm hseg
  have hi := parse_id_ok.2 hread
  refine ⟨fun f hr => ?_, fun d hr hne => ?_, fun d hr hnil => ?_⟩
  · rw [(serve_of_comes h (comes_update_malformed hi hr)).1, parse_draft_error hr]
    rfl
  · have hv : ¬ (catalog.validator d).isEmpty = true := fun hv => hne (List.isEmpty_iff.1 hv)
    rw [(serve_of_comes h (comes_update_invalid rfl hi hr hv)).1]
    rfl
  · have hv : (catalog.validator d).isEmpty = true := List.isEmpty_iff.2 hnil
    obtain ⟨wall, hwall⟩ := exists_toUtc? hclock
    have hrow : Row.ofAlbum? (old.toAlbum.withDraft d (s.clock w.readings)) =
        some ⟨old.id, d.title, d.artist, d.price, old.created, wall⟩ :=
      Row.ofAlbum?_eq_some_iff.2 ⟨rfl, rfl, rfl, rfl, Stamp.toUtc?_utc old.created, hwall⟩
    rw [(serve_put rfl hw hm hn hr hv hfound hrow).1]
    rfl

end Judges

namespace Judges

variable {body : ByteArray} {success : Int} {answer : Response}

/-- A body is refused as malformed exactly if it cannot be read. -/
theorem malformed_iff (h : Judges body success answer) (hs : success ≠ 400) :
    answer = .message 400 "malformed request body" ↔ ∃ f, Draft.parse body = .error f := by
  constructor
  · rintro rfl
    cases hr : Draft.parse body with
    | error f => exact ⟨f, rfl⟩
    | ok d =>
      by_cases hnil : d.problems = []
      · exact absurd (h.valid d hr hnil).symm hs
      · have hrefused := h.invalid d hr hnil
        simp [refusal, Response.message, Response.json] at hrefused
  · rintro ⟨f, hr⟩
    exact h.malformed f hr

/-- A draft that is read is refused for its problems exactly if something is wrong with a field. -/
theorem refusal_iff (h : Judges body success answer) (hs : success ≠ 400) {d : Draft}
    (hr : Draft.parse body = .ok d) {problems : Problems} :
    answer = refusal problems ↔ problems = d.problems ∧ ∃ field words, d.Fault field words := by
  rw [← Draft.problems_ne_nil_iff]
  by_cases hnil : d.problems = []
  · constructor
    · rintro rfl
      exact absurd (h.valid d hr hnil).symm hs
    · rintro ⟨-, hne⟩
      exact absurd hnil hne
  · rw [h.invalid d hr hnil, refusal_inj]
    constructor
    · rintro rfl
      exact ⟨rfl, hnil⟩
    · rintro ⟨rfl, -⟩
      rfl

/-- Two requests with one body are refused with the same answer, or both succeed. -/
theorem agree {success' : Int} {answer' : Response} (h : Judges body success answer)
    (h' : Judges body success' answer') :
    (∃ reply, answer = .json 400 reply ∧ answer' = .json 400 reply) ∨
      answer.status = success ∧ answer'.status = success' := by
  cases hr : Draft.parse body with
  | error f => exact .inl ⟨_, h.malformed f hr, h'.malformed f hr⟩
  | ok d =>
    by_cases hnil : d.problems = []
    · exact .inr ⟨h.valid d hr hnil, h'.valid d hr hnil⟩
    · exact .inl ⟨_, h.invalid d hr hnil, h'.invalid d hr hnil⟩

end Judges

/-- **One verdict on a body.** Take any body, a request that adds an album with it where the id that
is drawn is free, and a request that changes any stored album with it, each over any table and at a
moment that the calendar has at UTC. Either both are refused with the same body and status 400, or
both succeed. They are refused as malformed exactly if the body cannot be read. A draft that is read
is refused exactly if something is wrong with one of its fields, and then with one problem for every
such field and no other, where the problem of a field depends on that field alone. -/
theorem create_and_change_agree {b : ByteArray} {s s' : Supply} {w w' : World Database}
    {t t' : Table} {p q : Request} {u : AlbumId} {row : Row}
    (hw : w.store = .table t) (hp : p.method = "POST") (hpath : p.path = "/albums")
    (hpb : p.body = b) (hfree : t.find? (s.ids w.draws) = none)
    (hclock : (s.clock w.readings).toUtc? ≠ none)
    (hw' : w'.store = .table t') (hq : q.method = "PUT") (hnamed : named? q = some u)
    (hqb : q.body = b) (hfound : t'.find? u = some row)
    (hclock' : (s'.clock w'.readings).toUtc? ≠ none) :
    let added := (serve .database s catalog p w).value
    let changed := (serve .database s' catalog q w').value
    ((∃ body, added = .json 400 body ∧ changed = .json 400 body) ∨
        added.status = 201 ∧ changed.status = 200) ∧
      (added = .message 400 "malformed request body" ↔ ∃ f, Draft.parse b = .error f) ∧
      ∀ d, Draft.parse b = .ok d →
        (∀ problems, added = refusal problems ↔
          problems = d.problems ∧ ∃ field words, d.Fault field words) ∧
        (∀ field words, (field, words) ∈ d.problems ↔ d.Fault field words) ∧
        (d.problems.map Prod.fst).Nodup ∧
        ∀ d' : Draft,
          (d'.title = d.title → d'.problems.lookup "title" = d.problems.lookup "title") ∧
          (d'.artist = d.artist → d'.problems.lookup "artist" = d.problems.lookup "artist") ∧
          (d'.price = d.price → d'.problems.lookup "price" = d.problems.lookup "price") := by
  intro added changed
  have hadded : Judges b 201 added := hpb ▸ judges_create hw hp hpath hfree hclock
  have hchanged : Judges b 200 changed := hqb ▸ judges_change hw' hq hnamed hfound hclock'
  refine ⟨hadded.agree hchanged, hadded.malformed_iff (by decide), fun d hr => ?_⟩
  exact ⟨fun _ => hadded.refusal_iff (by decide) hr, fun _ _ => Draft.mem_problems_iff,
    d.nodup_problems, d.lookup_problems_congr⟩

/-- A body with an empty title and without a price, for a new album and for the only one there is.
-/
theorem create_and_change_agree_untitled :
    let b := "\x7b\"title\":\"\",\"artist\":\"Joni\"\x7d".toUTF8
    let p : Request := ⟨"POST", "/albums", "", b⟩
    let q : Request := ⟨"PUT", "/albums/" ++ (default : AlbumId).text, "", b⟩
    let stored : Table := Table.empty.put ⟨default, "Blue", "Joni", 1, default, default⟩
    let answer := refusal [("title", "is empty"), ("price", "is not greater than zero")]
    (standstill.clock 0).toUtc? ≠ none ∧ Table.empty.find? (standstill.ids 0) = none ∧
      (serve .database standstill catalog p emptyCatalog).value = answer ∧
      (serve .database standstill catalog q ⟨.table stored, 0, 0⟩).value = answer := by
  intro b p q stored answer
  have hclock : (standstill.clock 0).toUtc? ≠ none := by decide
  have hfree : Table.empty.find? (standstill.ids 0) = none := rfl
  have hread : Draft.parse b = .ok ⟨"", "Joni", 0⟩ := by decide +kernel
  have hfound : stored.find? default = some ⟨default, "Blue", "Joni", 1, default, default⟩ := by
    rw [Table.find?_put]
    rfl
  have hw : emptyCatalog.store = .table .empty := rfl
  have hw' : (World.mk (Database.table stored) 0 0).store = .table stored := rfl
  have hpb : p.body = b := rfl
  have hqb : q.body = b := rfl
  have hnamed : named? q = some default := named?_text rfl
  obtain ⟨hsame, -, hdraft⟩ := create_and_change_agree hw rfl rfl hpb hfree hclock hw' rfl hnamed
    hqb hfound hclock
  obtain ⟨hrefused, -, -, -⟩ := hdraft _ hread
  have hadded : (serve .database standstill catalog p emptyCatalog).value = answer :=
    (hrefused _).2 ⟨rfl, "title", "is empty", .title (.empty rfl)⟩
  refine ⟨hclock, hfree, hadded, ?_⟩
  rcases hsame with ⟨body, hbody, hchanged⟩ | ⟨hstatus, -⟩
  · rw [hchanged, ← hbody, hadded]
  · rw [hadded] at hstatus
    exact absurd hstatus (by decide)

end Api

end Discography
