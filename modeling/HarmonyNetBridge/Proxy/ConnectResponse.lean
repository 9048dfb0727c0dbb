import HarmonyNetBridge.Bytes.BufferedReader
import HarmonyNetBridge.Bytes.WhiteSpace
import HarmonyNetBridge.Proxy.Hostname

/-! `performConnect`: where the answer of the proxy to CONNECT ends and the tunnel begins. -/
namespace HarmonyNetBridge.Proxy
open Bytes List

def maxConnectResponseHeader : ℕ := 32 * 1024

/-- A `bufio.Reader` of its default size. -/
abbrev Reader4K := BufferedReader UInt8 4096

def readBoundedHeader (maximum : ℕ) (header : List UInt8) (reader : Reader4K) :
    Except String (List UInt8 × Reader4K) :=
  if header.length < maximum then
    match reader.readByte with
    | none => .error "local capture proxy closed during CONNECT"
    | some (value, reader) =>
      let header' := header ++ [value]
      if header'.length ≥ 4 ∧ header'.drop (header'.length - 4) = headerEnd then .ok (header', reader)
      else readBoundedHeader maximum header' reader
  else .error "local capture proxy returned an oversized CONNECT response"
termination_by maximum - header.length
decreasing_by
  rw [length_append, length_singleton]
  omega

/-- The text in front of the first line end, as `strings.Cut` has it. -/
def firstLine (header : List UInt8) : List UInt8 := (crlfLines header).headD []

def accepted (header : List UInt8) : Bool :=
  match fields whiteSpace (firstLine header) with
  | protocol :: status :: _ => (ascii "HTTP/").isPrefixOf protocol && status == ascii "200"
  | _ => false

/-- A connection to the proxy: what it sends, and whether it takes the request. -/
structure ProxyStream where
  incoming : Source UInt8
  writable : Bool := true

/-- The connection of an open tunnel. Its reads are those of the reader. -/
structure BufferedConn where
  request : List UInt8
  reader : Reader4K

def performConnect (connection : ProxyStream) (address : List UInt8) : Except String BufferedConn :=
  if connection.writable then
    match readBoundedHeader maxConnectResponseHeader [] { source := connection.incoming } with
    | .error err => .error err
    | .ok (header, reader) =>
      if accepted header then .ok { request := connectRequest address, reader }
      else .error "local capture proxy rejected the CONNECT request"
  else .error "local capture proxy did not accept the CONNECT request"

/-- The shortest front of a stream that ends in an empty line. -/
structure ResponseHeader (stream header : List UInt8) : Prop where
  begins : header <+: stream
  ends : headerEnd <:+ header
  shortest : ∀ front, front <+: stream → headerEnd <:+ front → header.length ≤ front.length

/-- The first line has a first field that begins with `HTTP/` and the second field `200`. -/
def StatusOK (header : List UInt8) : Prop :=
  ∃ protocol more, fields whiteSpace (firstLine header) = protocol :: ascii "200" :: more ∧
    ascii "HTTP/" <+: protocol

theorem accepted_iff {header : List UInt8} : accepted header = true ↔ StatusOK header := by
  unfold accepted StatusOK
  split
  · rename_i protocol status more hfields
    rw [hfields]
    simp only [Bool.and_eq_true, List.isPrefixOf_iff_prefix, beq_iff_eq, List.cons.injEq]
    constructor
    · rintro ⟨hprotocol, rfl⟩
      exact ⟨protocol, more, ⟨rfl, rfl, rfl⟩, hprotocol⟩
    · rintro ⟨_, _, ⟨rfl, rfl, rfl⟩, hprotocol⟩
      exact ⟨hprotocol, rfl⟩
  · rename_i hfields
    simp only [Bool.false_eq_true, false_iff, not_exists, not_and]
    intro protocol more heq
    exact absurd heq (hfields _ _ _)

theorem ResponseHeader.unique {stream header header' : List UInt8} (h : ResponseHeader stream header)
    (h' : ResponseHeader stream header') : header = header' := by
  have hlen : header.length = header'.length :=
    Nat.le_antisymm (h.shortest header' h'.begins h'.ends) (h'.shortest header h.begins h.ends)
  exact (prefix_of_prefix_length_le h.begins h'.begins (Nat.le_of_eq hlen)).eq_of_length
    hlen

theorem headerEnd_suffix_iff {header : List UInt8} :
    headerEnd <:+ header ↔ header.length ≥ 4 ∧ header.drop (header.length - 4) = headerEnd := by
  constructor
  · rintro ⟨front, rfl⟩
    have hlen : headerEnd.length = 4 := rfl
    rw [length_append, hlen, Nat.add_sub_cancel, drop_left]
    exact ⟨Nat.le_add_left _ _, rfl⟩
  · rintro ⟨-, hdrop⟩
    rw [← hdrop]
    exact List.drop_suffix _ _

/-- No front of these bytes ends in an empty line. -/
def Unended (header : List UInt8) : Prop := ∀ front, front <+: header → ¬headerEnd <:+ front

theorem unended_snoc {header : List UInt8} {value : UInt8} (h : Unended header)
    (hvalue : ¬headerEnd <:+ header ++ [value]) : Unended (header ++ [value]) := by
  intro front hfront
  rcases prefix_concat_iff.mp hfront with rfl | hbefore
  · exact hvalue
  · exact h front hbefore

/-- The first byte that ends an empty line ends the shortest header. -/
theorem responseHeader_snoc {header rest : List UInt8} {value : UInt8} (h : Unended header)
    (hvalue : headerEnd <:+ header ++ [value]) :
    ResponseHeader (header ++ value :: rest) (header ++ [value]) := by
  refine ⟨⟨rest, by simp⟩, hvalue, ?_⟩
  intro front hfront hend
  by_contra hshort
  rw [length_append, length_singleton] at hshort
  have hbefore : front <+: header :=
    prefix_of_prefix_length_le hfront (prefix_append _ _) (by omega)
  exact h front hbefore hend

variable {result address : List UInt8} {maximum : ℕ} {connection : ProxyStream}

/-- A header of a stream is longer than bytes in front of it that have no end. -/
theorem ResponseHeader.longer {header rest : List UInt8}
    (h : ResponseHeader (header ++ rest) result) (hunended : Unended header) :
    header.length < result.length := by
  by_contra hshort
  have hbefore : result <+: header :=
    prefix_of_prefix_length_le h.begins (prefix_append _ _) (by omega)
  exact hunended result hbefore h.ends

theorem readBoundedHeader_ok {header : List UInt8} {reader after : Reader4K}
    (hunended : Unended header)
    (h : readBoundedHeader maximum header reader = .ok (result, after)) :
    ResponseHeader (header ++ reader.rest) result ∧ result.length ≤ maximum ∧
      result ++ after.rest = header ++ reader.rest := by
  fun_induction readBoundedHeader maximum header reader with
  | case1 => cases h
  | case2 header reader hshort value reader' hread header' hend =>
    simp only [Except.ok.injEq, Prod.mk.injEq] at h
    rw [← h.1, ← h.2, ← BufferedReader.readByte_cons hread]
    refine ⟨responseHeader_snoc hunended (headerEnd_suffix_iff.mpr hend), ?_, ?_⟩
    · rw [length_append, length_singleton]
      omega
    · exact append_assoc header [value] _
  | case3 header reader hshort value reader' hread header' hend ih =>
    have hstream : header ++ reader.rest = header' ++ reader'.rest := by
      rw [← BufferedReader.readByte_cons hread, append_cons]
    rw [hstream]
    exact ih (unended_snoc hunended (mt headerEnd_suffix_iff.mp hend)) h
  | case4 => cases h

theorem readBoundedHeader_complete {header : List UInt8} (reader : Reader4K)
    (hunended : Unended header) (h : ResponseHeader (header ++ reader.rest) result)
    (hlen : result.length ≤ maximum) :
    ∃ after, readBoundedHeader maximum header reader = .ok (result, after) := by
  have hlonger := h.longer hunended
  fun_induction readBoundedHeader maximum header reader with
  | case1 header reader hshort hread =>
    -- the stream goes on, so there is a byte to read
    have hrest : reader.rest ≠ [] := by
      intro hnil
      have hle := h.begins.length_le
      rw [hnil, append_nil] at hle
      omega
    obtain ⟨value, rest, hcons⟩ := exists_cons_of_ne_nil hrest
    obtain ⟨after, hsome, -⟩ := BufferedReader.readByte_of_cons (by decide) hcons
    rw [hread] at hsome
    cases hsome
  | case2 header reader hshort value reader' hread header' hend =>
    rw [← BufferedReader.readByte_cons hread] at h
    have hresult := (responseHeader_snoc hunended (headerEnd_suffix_iff.mpr hend)).unique h
    rw [← hresult]
    exact ⟨reader', rfl⟩
  | case3 header reader hshort value reader' hread header' hend ih =>
    have hstream : header ++ reader.rest = header' ++ reader'.rest := by
      rw [← BufferedReader.readByte_cons hread, append_cons]
    rw [hstream] at h
    have hnext := unended_snoc hunended (mt headerEnd_suffix_iff.mp hend)
    exact ih hnext h (h.longer hnext)
  | case4 header reader hlong => omega

theorem unended_nil : Unended [] := by
  intro front hfront hend
  rw [prefix_nil.mp hfront] at hend
  exact absurd hend.length_le (by decide)

/-- `performConnect` succeeds just for a stream that begins with an accepted header of at most 32 KiB,
and the reader is left at the end of the header. -/
theorem performConnect_ok_iff : (∃ tunnel, performConnect connection address = .ok tunnel) ↔
      connection.writable = true ∧ ∃ header, ResponseHeader connection.incoming.bytes header ∧
        header.length ≤ maxConnectResponseHeader ∧ StatusOK header := by
  constructor
  · rintro ⟨tunnel, h⟩
    unfold performConnect at h
    split at h
    · rename_i hwritable
      split at h
      · cases h
      · rename_i header reader hheader
        split at h
        · rename_i hacc
          obtain ⟨hresp, hlen, -⟩ := readBoundedHeader_ok unended_nil hheader
          exact ⟨hwritable, header, hresp, hlen, accepted_iff.mp hacc⟩
        · cases h
    · cases h
  · rintro ⟨hwritable, header, hresp, hlen, hstatus⟩
    obtain ⟨after, hheader⟩ := readBoundedHeader_complete
      { source := connection.incoming } unended_nil hresp hlen
    unfold performConnect
    rw [if_pos hwritable, hheader]
    dsimp only
    rw [if_pos (accepted_iff.mpr hstatus)]
    exact ⟨_, rfl⟩

theorem performConnect_rest {header : List UInt8} {tunnel : BufferedConn}
    (h : performConnect connection address = .ok tunnel)
    (hresp : ResponseHeader connection.incoming.bytes header) :
    header ++ tunnel.reader.rest = connection.incoming.bytes := by
  unfold performConnect at h
  split at h
  · split at h
    · cases h
    · rename_i result reader hheader
      obtain ⟨hresult, -, hrest⟩ := readBoundedHeader_ok unended_nil hheader
      split at h
      · cases h
        rw [hresp.unique hresult]
        exact hrest
      · cases h
  · cases h

/-- However the bytes of the proxy are cut into reads: `performConnect` succeeds just when they begin
with an accepted header of at most 32 KiB, and the reads of the tunnel then give what comes after it. -/
theorem performConnect_boundary (incoming : Source UInt8) (address : List UInt8) :
    ((∃ tunnel, performConnect { incoming } address = .ok tunnel) ↔
      ∃ header, ResponseHeader incoming.bytes header ∧ header.length ≤ 32768 ∧ StatusOK header) ∧
    ∀ tunnel, performConnect { incoming } address = .ok tunnel →
      ∃ header body, ResponseHeader incoming.bytes header ∧ incoming.bytes = header ++ body ∧
        ∀ sizes, (tunnel.reader.reads sizes).1 ++ (tunnel.reader.reads sizes).2.rest = body ∧
          ((∀ n ∈ sizes, 0 < n) → body.length ≤ sizes.length →
            (tunnel.reader.reads sizes).1 = body) := by
  constructor
  · have hiff : (∃ tunnel, performConnect { incoming } address = .ok tunnel) ↔ _ :=
      performConnect_ok_iff
    rw [hiff]
    simp [maxConnectResponseHeader]
  · intro tunnel h
    obtain ⟨-, header, hresp, -, -⟩ := performConnect_ok_iff.mp ⟨tunnel, h⟩
    refine ⟨header, tunnel.reader.rest, hresp, (performConnect_rest h hresp).symm, ?_⟩
    intro sizes
    exact ⟨tunnel.reader.reads_append sizes, tunnel.reader.reads_all (by decide)⟩

end HarmonyNetBridge.Proxy
