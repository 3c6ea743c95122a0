import Mathlib.Algebra.Group.Int.Defs
import Discography.Proofs.ListingOrder
import Discography.Proofs.Queries
import Discography.Proofs.Runs

/-!
# Pages tile the catalog

A page shows the part of the listing that its size and its number stand for. Pages of one size follow
each other without a gap and without an overlap, so that together they are the listing.

* `serve_listing`, `pageOf_eq` — the response to a request for a page.
* `flatMap_pages`, `flatMap_items` — pages put together.
* `pages_tile` — what the pages of a table are and what they make up.
-/

set_option autoImplicit false

namespace Discography

/-! ## Reading a page -/

namespace Page

open Discography.Text

theorem fitsInt64_natCast {n : Nat} : fitsInt64 n = true ↔ n ≤ 2 ^ 63 - 1 := by
  unfold fitsInt64 int64Min int64Max
  rw [decide_eq_true_iff]
  omega

/-- A written number of 64 bits is read back where it is required. -/
theorem required_decimal {missing invalid : String} {n : Nat} (h : n ≤ 2 ^ 63 - 1) :
    required missing invalid (some (decimal n)) = .ok (n : Int) := by
  have hread := parseNumber_decimal (int64_lt_digitLimit (Nat.le_succ_of_le h))
  rw [if_pos (fitsInt64_natCast.2 h)] at hread
  simp only [required, hread]

/-- A size and a number in range, written in base ten, are read as the page that they stand for. -/
theorem parse_decimal {size i : Nat} (hpos : 1 ≤ size) (hmax : size ≤ 50)
    (hnumber : i + 1 ≤ 2 ^ 63 - 1) (hoffset : size * i ≤ 2 ^ 63 - 1) :
    parse (some (decimal size)) (some (decimal (i + 1))) = .ok ⟨(size * i : Nat), size⟩ := by
  have hoffset' : ((size * i : Nat) : Int) ≤ int64Max := by
    unfold int64Max
    omega
  have heq : ofSizeAndNumber size (i + 1 : Nat) = ⟨(size * i : Nat), size⟩ := by
    unfold ofSizeAndNumber
    congr 1
    push_cast
    congr 1
    omega
  unfold parse
  rw [required_decimal (by omega), required_decimal hnumber]
  show checked size (i + 1 : Nat) = _
  unfold checked
  rw [heq, if_neg (by omega), if_neg (by unfold maxPageSize; omega), if_neg (by omega),
    if_neg (Int.not_lt.2 hoffset')]

end Page

end Discography

namespace Discography.Http

/-- What a response lists. -/
def Response.items (response : Response) : List Json.Value :=
  match response.body with
  | some (.array items) => items
  | _ => []

@[simp] theorem Response.items_array (status : Int) (items : List Json.Value) :
    (Response.json status (.array items)).items = items := rfl

end Discography.Http

namespace Discography.Api

/-! ## Requests for a page -/

open Discography.Text Discography.Store Discography.Http

/-- A request for a page. -/
def pageRequest (size number : Nat) : Request :=
  ⟨"GET", "/albums", "page_size=" ++ decimal size ++ "&page_number=" ++ decimal number, .empty⟩

/-- The parameters of a request for a page are its size and its number. -/
theorem parameters_pageRequest (size number : Nat) :
    parameters (pageRequest size number).query =
      [("page_size", decimal size), ("page_number", decimal number)] := by
  have hquery : (pageRequest size number).query =
      queryOf [("page_size", decimal size), ("page_number", decimal number)] := by
    rw [← String.toList_inj]
    simp [pageRequest, queryOf, writtenParameter, String.toList_append]
  have hname (name : String) (hn : name.toList.all isPlain = true) (c : Char)
      (hc : c ∈ name.toList) : isPlain c = true := List.all_eq_true.1 hn c hc
  rw [hquery, parameters_queryOf]
  intro p hp
  rcases List.mem_pair.1 hp with rfl | rfl
  · exact ⟨hname "page_size" (by decide), fun c hc => isPlain_of_mem_decimal hc⟩
  · exact ⟨hname "page_number" (by decide), fun c hc => isPlain_of_mem_decimal hc⟩

/-- The response to a request for a page over a table. -/
def pageOf (s : Supply) (ctx : Context) (w : World Database) (size number : Nat) : Response :=
  (serve .database s ctx (pageRequest size number) w).value

section Page

variable {s : Supply} {ctx : Context} {t : Table} {w : World Database}

/-- The response to a list of albums, as it is found or not found in the storage. -/
theorem serve_listing (hd : ctx.hasDatabase = true) (hw : w.store = .table t) {q : Request}
    {offset limit : Nat} (hm : q.method = "GET") (hp : q.path = "/albums")
    (hq : Page.parse (lastParameter? q.query "page_size") (lastParameter? q.query "page_number") =
      .ok ⟨offset, limit⟩)
    (hoffset : fitsInt64 offset = true) (hlimit : fitsInt64 limit = true) :
    (serve .database s ctx q w).value =
      .json 200 (.array (((t.listed.drop offset).take limit).map fun row =>
        row.toAlbum.response)) := by
  obtain ⟨d, n, k⟩ := w
  cases hw
  have hfind := find_listAlbums hm hp
  have hwindow : t.window offset limit = (t.listed.drop offset).take limit := by
    simp [Table.window]
  have hc := Database.perform_findAll t offset limit
  rw [hoffset, hlimit, hwindow] at hc
  cases hrows : (t.listed.drop offset).take limit with
  | nil =>
    rw [hrows] at hc
    exact (serve_of_comes hfind (comes_list_empty hd hq hc)).1
  | cons row rows =>
    rw [hrows] at hc
    rw [(serve_of_comes hfind (comes_list hd hq hc)).1]
    show Response.json 200 (.array (((row :: rows).map Row.toAlbum).map Album.response)) = _
    rw [List.map_map]
    rfl

/-- A page shows its part of the listing. -/
theorem pageOf_eq (hd : ctx.hasDatabase = true) (hw : w.store = .table t) {size i : Nat}
    (hpos : 1 ≤ size) (hmax : size ≤ 50) (hnumber : i + 1 ≤ 2 ^ 63 - 1)
    (hoffset : size * i ≤ 2 ^ 63 - 1) :
    pageOf s ctx w size (i + 1) =
      .json 200 (.array (((t.listed.drop (size * i)).take size).map fun row =>
        row.toAlbum.response)) := by
  refine serve_listing hd hw rfl rfl ?_ (Page.fitsInt64_natCast.2 hoffset)
    (Page.fitsInt64_natCast.2 (by omega))
  unfold lastParameter?
  rw [parameters_pageRequest]
  exact Page.parse_decimal hpos hmax hnumber hoffset

theorem items_pageOf (hd : ctx.hasDatabase = true) (hw : w.store = .table t) {size i : Nat}
    (hpos : 1 ≤ size) (hmax : size ≤ 50) (hnumber : i + 1 ≤ 2 ^ 63 - 1)
    (hoffset : size * i ≤ 2 ^ 63 - 1) :
    (pageOf s ctx w size (i + 1)).items =
      ((t.listed.drop (size * i)).take size).map fun row => row.toAlbum.response := by
  rw [pageOf_eq hd hw hpos hmax hnumber hoffset, Response.items_array]

end Page

/-! ## Putting pages together -/

/-- The first `m` pages of a list are its first elements. -/
theorem flatMap_pages {α : Type} (l : List α) (size m : Nat) :
    ((List.range m).flatMap fun i => (l.drop (size * i)).take size) = l.take (size * m) := by
  induction m with
  | zero => rfl
  | succ m ih =>
    rw [List.range_succ, List.flatMap_append, ih, List.flatMap_singleton, Nat.mul_succ, List.take_add]

/-- A page is full if the one after it has anything to show. -/
theorem length_page {α : Type} {l : List α} {size i : Nat}
    (h : (l.drop (size * (i + 1))).take size ≠ []) : ((l.drop (size * i)).take size).length = size := by
  have hlt : size * (i + 1) < l.length := by
    rw [← List.length_pos_iff, List.length_take, List.length_drop] at h
    omega
  rw [Nat.mul_succ] at hlt
  rw [List.length_take, List.length_drop]
  omega

/-- A page has nothing to show exactly if the pages before it have room for all. -/
theorem page_eq_nil_iff {α : Type} {l : List α} {size i : Nat} (hpos : 1 ≤ size) :
    (l.drop (size * i)).take size = [] ↔ l.length ≤ size * i := by
  rw [List.take_eq_nil_iff, List.drop_eq_nil_iff]
  omega

/-- Some number of pages has room for all of a list. -/
theorem exists_room {size : Nat} (hpos : 1 ≤ size) (n : Nat) :
    ∃ m, n ≤ size * m ∧ m ≤ size * m ∧ size * m < n + size := by
  have hdiv := Nat.div_add_mod (n + size - 1) size
  have hmod := Nat.mod_lt (n + size - 1) hpos
  have hle := Nat.le_mul_of_pos_left ((n + size - 1) / size) hpos
  exact ⟨(n + size - 1) / size, by omega, hle, by omega⟩

section Tiles

variable {s : Supply} {ctx : Context} {t : Table} {w : World Database} {size : Nat}
  (hd : ctx.hasDatabase = true) (hw : w.store = .table t) (hpos : 1 ≤ size) (hmax : size ≤ 50)

include hd hw hpos hmax

/-- The pages up to one that is empty show all of the listing. -/
theorem flatMap_items {m : Nat} (hm : m + 1 ≤ 2 ^ 63 - 1) (ho : size * m ≤ 2 ^ 63 - 1)
    (hempty : (pageOf s ctx w size (m + 1)).items = []) :
    ((List.range m).flatMap fun i => (pageOf s ctx w size (i + 1)).items) =
      t.listed.map fun row => row.toAlbum.response := by
  rw [items_pageOf hd hw hpos hmax hm ho, List.map_eq_nil_iff, page_eq_nil_iff hpos] at hempty
  have hparts : ((List.range m).flatMap fun i => (pageOf s ctx w size (i + 1)).items) =
      (List.range m).flatMap fun i => ((t.listed.drop (size * i)).take size).map
        fun row => row.toAlbum.response := by
    refine List.flatMap_congr fun i hi => ?_
    have him := List.mem_range.1 hi
    have hle := Nat.mul_le_mul_left size (Nat.le_of_lt him)
    exact items_pageOf hd hw hpos hmax (by omega) (by omega)
  rw [hparts, ← List.map_flatMap, flatMap_pages, List.take_of_length_le hempty]

/-- A page before one that is not empty is full. -/
theorem length_items {i : Nat} (hi : i + 1 + 1 ≤ 2 ^ 63 - 1) (ho : size * (i + 1) ≤ 2 ^ 63 - 1)
    (hne : (pageOf s ctx w size (i + 1 + 1)).items ≠ []) :
    (pageOf s ctx w size (i + 1)).items.length = size := by
  have hle := Nat.mul_le_mul_left size (show i ≤ i + 1 from Nat.le_succ i)
  rw [items_pageOf hd hw hpos hmax hi ho, Ne, List.map_eq_nil_iff] at hne
  rw [items_pageOf hd hw hpos hmax (by omega) (by omega), List.length_map]
  exact length_page hne

/-- Some page is empty, unless there are as many rows as offsets of 64 bits. -/
theorem exists_items_eq_nil (hlen : t.listed.length + size ≤ 2 ^ 63 - 1) :
    ∃ m, m + 1 ≤ 2 ^ 63 - 1 ∧ size * m ≤ 2 ^ 63 - 1 ∧
      (pageOf s ctx w size (m + 1)).items = [] := by
  obtain ⟨m, hroom, hle, hlt⟩ := exists_room hpos t.listed.length
  refine ⟨m, by omega, by omega, ?_⟩
  rw [items_pageOf hd hw hpos hmax (by omega) (by omega), List.map_eq_nil_iff]
  exact (page_eq_nil_iff hpos).2 hroom

end Tiles

/-- **Pages tile the catalog.** Over every table there is one list of its rows in the order of a
listing, however the rows are held, and a page shows its part of that list. For every size, the pages
up to one that is empty show all of the list, every page before one that is not empty is full, and
there is an empty page unless the rows outnumber the offsets of 64 bits. -/
theorem pages_tile (s : Supply) (v : Validator) (t : Table) (n k : Nat) :
    let page := pageOf s ⟨true, v⟩ ⟨.table t, n, k⟩
    ∃ l : List Row, l.Perm t.rows ∧ l.Pairwise Precedes ∧
      (∀ rows : List Row, rows.Perm t.rows → rows.mergeSort listedBefore = l) ∧
      (∀ l', (∀ row, row ∈ l' ↔ row ∈ t.rows) → l'.Pairwise Precedes → l' = l) ∧
      ∀ size, 1 ≤ size → size ≤ 50 →
        (∀ number, 1 ≤ number → number ≤ 2 ^ 63 - 1 → size * (number - 1) ≤ 2 ^ 63 - 1 →
          page size number = .json 200 (.array (((l.drop (size * (number - 1))).take size).map
            fun row => row.toAlbum.response))) ∧
        (∀ m, m + 1 ≤ 2 ^ 63 - 1 → size * m ≤ 2 ^ 63 - 1 → (page size (m + 1)).items = [] →
          ((List.range m).flatMap fun i => (page size (i + 1)).items) =
            l.map fun row => row.toAlbum.response) ∧
        (∀ number, 1 ≤ number → number + 1 ≤ 2 ^ 63 - 1 → size * number ≤ 2 ^ 63 - 1 →
          (page size (number + 1)).items ≠ [] → (page size number).items.length = size) ∧
        (l.length + size ≤ 2 ^ 63 - 1 → ∃ m, m + 1 ≤ 2 ^ 63 - 1 ∧ size * m ≤ 2 ^ 63 - 1 ∧
          (page size (m + 1)).items = []) := by
  intro page
  refine ⟨t.listed, t.listed_perm, t.listed_pairwise, fun rows => t.mergeSort_eq_listed, ?_, ?_⟩
  · intro l' hmem hl'
    refine eq_of_precedes hl' t.listed_pairwise fun row => ?_
    rw [hmem, t.listed_perm.mem_iff]
  · intro size hpos hmax
    refine ⟨?_, ?_, ?_, ?_⟩
    · intro number h1 hn ho
      obtain ⟨i, rfl⟩ : ∃ i, number = i + 1 := ⟨number - 1, by omega⟩
      exact pageOf_eq rfl rfl hpos hmax hn ho
    · intro m hm ho hempty
      exact flatMap_items rfl rfl hpos hmax hm ho hempty
    · intro number h1 hn ho hne
      obtain ⟨i, rfl⟩ : ∃ i, number = i + 1 := ⟨number - 1, by omega⟩
      exact length_items rfl rfl hpos hmax hn ho hne
    · intro hlen
      exact exists_items_eq_nil rfl rfl hpos hmax hlen

/-- A number that does not have 64 bits is refused, even if the offset of its page has. -/
theorem page_beyond_int64_refused :
    (1 * (2 ^ 63 - 1) : Int) ≤ int64Max ∧
      pageOf standstill catalog emptyCatalog 1 (2 ^ 63) =
        .message 400 "page number is not a valid number" := by
  have hread := Page.parseNumber_decimal (Page.int64_lt_digitLimit (Nat.le_refl (2 ^ 63)))
  have hparse : Page.parse (lastParameter? (pageRequest 1 (2 ^ 63)).query "page_size")
      (lastParameter? (pageRequest 1 (2 ^ 63)).query "page_number") =
        .error (.malformed "page number is not a valid number") := by
    unfold lastParameter?
    rw [parameters_pageRequest]
    show Page.parse (some (decimal 1)) (some (decimal (2 ^ 63))) = _
    unfold Page.parse
    rw [Page.required_decimal (by decide)]
    unfold Page.required
    rw [if_neg (by decide)] at hread
    simp only [hread]
  refine ⟨by decide, ?_⟩
  exact (serve_of_comes (find_listAlbums rfl rfl) (comes_list_refused rfl hparse)).1

end Discography.Api
