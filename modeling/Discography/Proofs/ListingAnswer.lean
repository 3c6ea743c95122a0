import Discography.Proofs.PageReading
import Discography.Proofs.Tiling

/-!
# How a listing is answered

A listing is documented to be answered with a page, or as malformed. It is so over every table and for
every query but one with a numeral that has more digits than are converted: that listing is answered
as an internal error.

* `listing_answered` — the response to a listing over any table, and when it is an internal error.
* `overlong_size_answered` — a listing that is answered as an internal error.
-/

set_option autoImplicit false

namespace Discography

namespace Api

open Discography.Text Discography.Store Discography.Http

/-! ## Listings -/

section Listing

variable {s : Supply} {ctx : Context} {t : Table} {n k : Nat} {query : String} {body : ByteArray}

/-- A page that has been read is shown. -/
theorem status_listing (hd : ctx.hasDatabase = true) {p : Page}
    (hq : Page.parse (lastParameter? query "page_size") (lastParameter? query "page_number") =
      .ok p) :
    (serve .database s ctx ⟨"GET", "/albums", query, body⟩ ⟨.table t, n, k⟩).value.status = 200 := by
  obtain ⟨hstart, hoffset, hpos, hmax⟩ := Page.bounds_of_parse hq
  obtain ⟨offset, limit⟩ := p
  obtain ⟨i, rfl⟩ := Int.eq_ofNat_of_zero_le hstart
  obtain ⟨j, rfl⟩ := Int.eq_ofNat_of_zero_le (Int.le_trans (by decide) hpos)
  have hi : (i : Int) ≤ 9223372036854775807 := hoffset
  have hj : (j : Int) ≤ 50 := hmax
  have hshown : (serve .database s ctx ⟨"GET", "/albums", query, body⟩ ⟨.table t, n, k⟩).value =
      .json 200 _ := serve_listing hd rfl rfl rfl hq (Page.fitsInt64_natCast.2 (by omega))
    (Page.fitsInt64_natCast.2 (by omega))
  rw [hshown]
  rfl

/-- Parameters that are no page are answered as the failure to read them. -/
theorem value_listing_refused (hd : ctx.hasDatabase = true) {f : Failure}
    (hq : Page.parse (lastParameter? query "page_size") (lastParameter? query "page_number") =
      .error f) :
    (serve .database s ctx ⟨"GET", "/albums", query, body⟩ ⟨.table t, n, k⟩).value =
      (reply ⟨"GET", "/albums", query, body⟩ f).1 := by
  let r : Request := ⟨"GET", "/albums", query, body⟩
  have hfind : find (routes r) r.method r.path = .endpoint (.listAlbums query) :=
    find_listAlbums rfl rfl
  exact (serve_of_comes hfind (comes_list_refused hd hq)).1

end Listing

/-- **A listing is answered with a page, or as malformed, or as an internal error if its parameters
have too many digits.** Over every table and for every query, two parameters that are read as a page
are answered with 200, malformed ones with 400 and what is wrong with them, and parameters of which
one is looked at that has too many digits with 500; no query is answered otherwise. -/
theorem listing_answered (s : Supply) (v : Validator) (t : Table) (n k : Nat) (query : String)
    (body : ByteArray) :
    let size := lastParameter? query "page_size"
    let number := lastParameter? query "page_number"
    let response :=
      (serve .database s ⟨true, v⟩ ⟨"GET", "/albums", query, body⟩ ⟨.table t, n, k⟩).value
    ((∃ p, Page.parse size number = .ok p ∧ response.status = 200) ∨
      (∃ message, Page.parse size number = .error (.malformed message) ∧
        response = .message 400 message) ∨
      ∃ count, Page.Unconverted size number count ∧
        Page.parse size number = .error (.tooManyDigits count) ∧
        response = .message 500 Failure.internalMessage) ∧
      ((response.status = 200 ∨ response.status = 400) ↔
        ¬ ∃ count, Page.Unconverted size number count) := by
  intro size number response
  rcases Page.parse_cases size number with ⟨p, hp⟩ | ⟨message, hp⟩ | ⟨count, hover⟩
  · have hstatus : response.status = 200 := status_listing rfl hp
    refine ⟨.inl ⟨p, hp, hstatus⟩, fun _ => ?_, fun _ => .inl hstatus⟩
    rintro ⟨count, hover⟩
    rw [Page.parse_of_unconverted hover] at hp
    cases hp
  · have hvalue : response = .message 400 message := value_listing_refused rfl hp
    refine ⟨.inr (.inl ⟨message, hp, hvalue⟩), fun _ => ?_, fun _ => .inr (by rw [hvalue]; rfl)⟩
    rintro ⟨count, hover⟩
    rw [Page.parse_of_unconverted hover] at hp
    cases hp
  · have hp := Page.parse_of_unconverted hover
    have hvalue : response = .message 500 Failure.internalMessage := value_listing_refused rfl hp
    refine ⟨.inr (.inr ⟨count, hover, hp, hvalue⟩), fun h => ?_, fun h => absurd ⟨count, hover⟩ h⟩
    rw [hvalue] at h
    rcases h with h | h
    · exact absurd h (by decide)
    · exact absurd h (by decide)

/-- A numeral of nines. -/
def nines (count : Nat) : String := String.ofList (List.replicate count '9')

/-- A query for the first page of a size that is written with nines. -/
def ninesQuery (count : Nat) : String := queryOf [("page_size", nines count), ("page_number", "1")]

theorem eq_nine_of_mem_nines {count : Nat} {c : Char} (h : c ∈ (nines count).toList) : c = '9' := by
  rw [nines, String.toList_ofList] at h
  exact (List.mem_replicate.1 h).2

theorem overlong_nines {count : Nat} (h : digitLimit < count) : Page.Overlong (nines count) count := by
  refine ⟨[], List.replicate count '9', String.toList_ofList, by simp [Page.signs], ?_,
    List.length_replicate, h⟩
  intro c hc
  rw [(List.mem_replicate.1 hc).2]
  decide

theorem lastParameter?_ninesQuery (count : Nat) :
    lastParameter? (ninesQuery count) "page_size" = some (nines count) := by
  have hplain (name : String) (hn : name.toList.all isPlain = true) (c : Char)
      (hc : c ∈ name.toList) : isPlain c = true := List.all_eq_true.1 hn c hc
  have hparameters : parameters (ninesQuery count) =
      [("page_size", nines count), ("page_number", "1")] := by
    refine parameters_queryOf fun p hp => ?_
    rcases List.mem_pair.1 hp with rfl | rfl
    · refine ⟨hplain "page_size" (by decide), fun c hc => ?_⟩
      rw [eq_nine_of_mem_nines hc]
      decide
    · exact ⟨hplain "page_number" (by decide), hplain "1" (by decide)⟩
  unfold lastParameter?
  rw [hparameters]
  rfl

/-- The documents say that a size of 4301 nines, a numeral whose value does not have 64 bits, is
answered as malformed; it is answered as an internal error. -/
theorem overlong_size_answered :
    let response := (serve .database standstill catalog
      ⟨"GET", "/albums", ninesQuery 4301, .empty⟩ emptyCatalog).value
    response = .message 500 Failure.internalMessage ∧ ¬ (response.status = 200 ∨ response.status = 400) ∧
      response ≠ .message 400 "page size is not a valid number" := by
  intro response
  have hover : Page.Overlong (nines 4301) 4301 := overlong_nines (by decide)
  have hunconverted : Page.Unconverted (lastParameter? (ninesQuery 4301) "page_size")
      (lastParameter? (ninesQuery 4301) "page_number") 4301 :=
    .inl ⟨_, lastParameter?_ninesQuery 4301, hover⟩
  have hparse := Page.parse_of_unconverted hunconverted
  have hvalue : response = .message 500 Failure.internalMessage := value_listing_refused rfl hparse
  rw [hvalue]
  refine ⟨rfl, by decide, fun h => ?_⟩
  have hstatus := congrArg Response.status h
  exact absurd hstatus (by decide)

end Api

end Discography
