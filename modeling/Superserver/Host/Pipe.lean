import Superserver.Text.Utf8

/-!
A pipe: a row of pages with a bound on their number. A page that has been read in part does not
get its room back before it is empty, so a pipe may refuse bytes though fewer than its size wait.
-/

namespace Superserver

structure Page where
  bytes : Bytes
  /-- Room that is used up, by bytes read or not. -/
  used : Nat

structure Pipe where
  pages : List Page := []
  slots : Nat := 16

namespace Pipe

def pageSize : Nat := 4096

def contents (pipe : Pipe) : Bytes := pipe.pages.flatMap (·.bytes)

def isEmpty (pipe : Pipe) : Bool := pipe.pages.isEmpty

def readPages : Nat → List Page → Bytes × List Page
  | _, [] => ([], [])
  | count, page :: pages =>
      if page.bytes.length ≤ count then
        let (more, rest) := readPages (count - page.bytes.length) pages
        (page.bytes ++ more, rest)
      else (page.bytes.take count, { page with bytes := page.bytes.drop count } :: pages)

def read (count : Nat) (pipe : Pipe) : Bytes × Pipe :=
  let (bytes, pages) := readPages count pipe.pages
  (bytes, { pipe with pages })

theorem length_readPages_le (count : Nat) (pages : List Page) :
    (readPages count pages).1.length ≤ count := by
  induction pages generalizing count with
  | nil => simp [readPages]
  | cons page pages ih =>
      simp only [readPages]
      split
      · have rest := ih (count - page.bytes.length)
        simp only [List.length_append]
        omega
      · simp only [List.length_take]
        omega

theorem length_read_le (count : Nat) (pipe : Pipe) : (pipe.read count).1.length ≤ count :=
  length_readPages_le count pipe.pages

def paginate : (slots : Nat) → Bytes → List Page
  | 0, _ => []
  | slots + 1, bytes =>
      if bytes.isEmpty then []
      else
        let first := bytes.take pageSize
        { bytes := first, used := first.length } :: paginate slots (bytes.drop pageSize)

/-- Puts the odd bytes of a write, those beyond whole pages, into the last page if it has room
for all of them. The rest is for new pages. -/
def merge (data : Bytes) (pages : List Page) : List Page × Bytes :=
  let odd := data.length % pageSize
  match pages.getLast? with
  | none => (pages, data)
  | some last =>
      if odd = 0 || pageSize < last.used + odd then (pages, data)
      else
        (pages.dropLast ++ [{ bytes := last.bytes ++ data.take odd, used := last.used + odd }],
          data.drop odd)

def write (data : Bytes) (pipe : Pipe) : Nat × Pipe :=
  let (pages, rest) := merge data pipe.pages
  let added := paginate (pipe.slots - pages.length) rest
  (data.length - rest.length + (added.flatMap (·.bytes)).length,
    { pipe with pages := pages ++ added })

def grown (pipe : Pipe) : Pipe := { pipe with slots := max pipe.slots 256 }

end Pipe

end Superserver
