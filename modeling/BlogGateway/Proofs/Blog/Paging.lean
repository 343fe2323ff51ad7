/-
Listings that are read to the end.

A listing is given in pages, so a reader asks for one after the other.  `Gathers` says what has
come together when there is nothing more to be asked for; it knows nothing of the listing and
sees only what each call has answered.  A page is a cut out of the listing, and where one ends
the next begins; so the reader has the rest of the listing from where it started, and when it
started at the beginning, all of it.
-/
import BlogGateway.Blog.View

namespace BlogGateway.Blog

/-- What a reader gathers who asks for page after page of one size, from an offset on, until a
page is empty or the offset is too large to be asked for. -/
inductive Gathers {α : Type} (ask : UInt32 → UInt32 → Except Rpc.Error (List α))
    (limit : UInt32) : Nat → List α → Prop
  | ended {start : Nat} (within : start < UInt32.size)
      (given : ask (UInt32.ofNat start) limit = .ok []) : Gathers ask limit start []
  | beyond {start : Nat} (out : UInt32.size ≤ start) : Gathers ask limit start []
  | further {start : Nat} {items rest : List α} (within : start < UInt32.size)
      (given : ask (UInt32.ofNat start) limit = .ok items) (filled : items ≠ [])
      (more : Gathers ask limit (start + limit.toNat) rest) :
      Gathers ask limit start (items ++ rest)

variable {α : Type} {items got : List α} {limit : UInt32} {start : Nat}

theorem page_ofNat (items : List α) (allowed : limit ≤ pageLimit) (within : start < UInt32.size) :
    page items (UInt32.ofNat start) limit = .ok ((items.drop start).take limit.toNat) := by
  rw [page, if_neg (UInt32.not_lt.mpr allowed), UInt32.toNat_ofNat_of_lt' within]

/-- There is nothing behind the last offset that can be asked for. -/
theorem drop_of_size_le (few : items.length ≤ UInt32.size) (out : UInt32.size ≤ start) :
    items.drop start = [] :=
  List.drop_eq_nil_of_le (Nat.le_trans few out)

/-- What has been gathered is the rest of the listing. -/
theorem Gathers.eq_drop (gathers : Gathers (page items) limit start got)
    (positive : 0 < limit) (allowed : limit ≤ pageLimit) (few : items.length ≤ UInt32.size) :
    got = items.drop start := by
  induction gathers with
  | @ended start within given =>
      rw [page_ofNat items allowed within] at given
      rcases List.take_eq_nil_iff.mp (Except.ok.inj given) with none | nothing
      · exact absurd none (Nat.ne_of_gt (UInt32.lt_iff_toNat_lt.mp positive))
      · exact nothing.symm
  | beyond out => exact (drop_of_size_le few out).symm
  | @further start cut rest within given filled more ih =>
      rw [page_ofNat items allowed within] at given
      obtain rfl := Except.ok.inj given
      rw [ih, ← List.drop_drop, List.take_append_drop]

/-- The rest of the listing can be gathered, page by page. -/
theorem gathers_drop (items : List α) (positive : 0 < limit) (allowed : limit ≤ pageLimit)
    (few : items.length ≤ UInt32.size) (start : Nat) :
    Gathers (page items) limit start (items.drop start) := by
  have more : 0 < limit.toNat := UInt32.lt_iff_toNat_lt.mp positive
  -- The induction is on what is left: the offset grows by the limit, which is not zero.
  induction left : items.length - start using Nat.strongRecOn generalizing start with
  | _ left ih =>
      by_cases within : start < UInt32.size
      · have given := page_ofNat items allowed within
        by_cases nothing : items.drop start = []
        · rw [nothing, List.take_nil] at given
          rw [nothing]
          exact .ended within given
        · have inside : start < items.length := by
            simpa using nothing
          rw [← List.take_append_drop limit.toNat (items.drop start), List.drop_drop]
          refine .further within given ?_ (ih _ ?_ _ rfl)
          · rw [ne_eq, List.take_eq_nil_iff, not_or]
            exact ⟨Nat.ne_of_gt more, nothing⟩
          · omega
      · have out : UInt32.size ≤ start := Nat.le_of_not_lt within
        rw [drop_of_size_le few out]
        exact .beyond out

/-- Page by page, a listing is gathered as it is and not otherwise. -/
theorem gathers_page_iff (positive : 0 < limit) (allowed : limit ≤ pageLimit)
    (few : items.length ≤ UInt32.size) : Gathers (page items) limit 0 got ↔ got = items := by
  constructor
  · exact fun gathers => gathers.eq_drop positive allowed few
  · rintro rfl
    exact gathers_drop got positive allowed few 0

/-! ### Pages up to the first that is empty -/

/-- The pages that a reader has been given who asks for one after the other, from an offset on,
until a page is empty. -/
inductive ReadOut {α : Type} (ask : UInt32 → UInt32 → Except Rpc.Error (List α))
    (limit : UInt32) : Nat → List (List α) → Prop
  | ended {start : Nat} (within : start < UInt32.size)
      (given : ask (UInt32.ofNat start) limit = .ok []) : ReadOut ask limit start []
  | further {start : Nat} {items : List α} {pages : List (List α)} (within : start < UInt32.size)
      (given : ask (UInt32.ofNat start) limit = .ok items) (filled : items ≠ [])
      (more : ReadOut ask limit (start + limit.toNat) pages) :
      ReadOut ask limit start (items :: pages)

/-- What has been read page by page has been gathered. -/
theorem ReadOut.gathers {ask : UInt32 → UInt32 → Except Rpc.Error (List α)}
    {pages : List (List α)} (read : ReadOut ask limit start pages) :
    Gathers ask limit start pages.flatten := by
  induction read with
  | ended within given => exact .ended within given
  | further within given filled more ih => exact .further within given filled ih

/-- A reader who does not ask from beyond the listing comes to an empty page. -/
theorem Gathers.readOut (gathers : Gathers (page items) limit start got)
    (allowed : limit ≤ pageLimit) (few : items.length < Nat.pow 2 31)
    (inside : start ≤ items.length + limit.toNat) :
    ∃ pages, ReadOut (page items) limit start pages := by
  have small : limit.toNat ≤ 1000 := UInt32.le_iff_toNat_le.mp allowed
  induction gathers with
  | ended within given => exact ⟨[], .ended within given⟩
  | @beyond start out =>
      have size : UInt32.size = 4294967296 := rfl
      have fewer : items.length < 2147483648 := few
      omega
  | @further start cut rest within given filled more ih =>
      have start_lt : start < items.length := by
        rw [page_ofNat items allowed within] at given
        obtain rfl := Except.ok.inj given
        have left : items.drop start ≠ [] := fun nothing => filled (by rw [nothing, List.take_nil])
        simpa using left
      obtain ⟨pages, read⟩ := ih (by omega)
      exact ⟨cut :: pages, .further within given filled read⟩

/-- The answers are the pages of the listing: whoever reads page after page comes to an end and
has the listing then, and nobody is given a page that is too large. -/
structure Paged {α : Type} (ask : UInt32 → UInt32 → Except Rpc.Error (List α))
    (listing : List α) : Prop where
  ends : ∀ limit, 1 ≤ limit → limit ≤ 1000 → listing.length < Nat.pow 2 31 →
    ∃ pages, ReadOut ask limit 0 pages
  whole : ∀ limit, 1 ≤ limit → limit ≤ 1000 → listing.length < Nat.pow 2 31 →
    ∀ pages, ReadOut ask limit 0 pages → pages.flatten = listing
  refused : ∀ start limit, 1000 < limit →
    ask start limit = .error (.invalidParameter "invalid limit")

theorem paged_page (items : List α) : Paged (page items) items where
  ends := by
    intro limit positive allowed few
    have gathered := gathers_drop items (UInt32.lt_of_lt_of_le (by decide) positive) allowed
      (Nat.le_trans (Nat.le_of_lt few) (by decide)) 0
    exact gathered.readOut allowed few (Nat.zero_le _)
  whole := by
    intro limit positive allowed few pages read
    exact read.gathers.eq_drop (UInt32.lt_of_lt_of_le (by decide) positive) allowed
      (Nat.le_trans (Nat.le_of_lt few) (by decide))
  refused := fun _ _ above => if_pos above

end BlogGateway.Blog
