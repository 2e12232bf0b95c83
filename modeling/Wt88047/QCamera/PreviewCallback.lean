import Wt88047.MmCamera.PlaneShapes

/-! The preview frames for the application: a frame whose planes have padding is packed into a buffer of its own, and
any other is handed over as it is. -/

namespace Wt88047.PreviewCallback

open Padding PlaneLayout Superbuf

def memcpy (dst src : List UInt8) (dstOffset srcOffset n : Nat) : Option (List UInt8) :=
  if srcOffset + n ≤ src.length ∧ dstOffset + n ≤ dst.length then
    some (dst.take dstOffset ++ (src.drop srcOffset).take n ++ dst.drop (dstOffset + n))
  else none

def copyRows (src : List UInt8) (srcStride srcBaseOffset dstStride dstBaseOffset : Nat) :
    Nat → Nat → List UInt8 → Option (List UInt8)
  | 0, _, dst => some dst
  | n + 1, i, dst => do
    let srcOffset ← int (i * srcStride + srcBaseOffset)
    let dstOffset ← int (i * dstStride + dstBaseOffset)
    let dst ← memcpy dst src dstOffset srcOffset dstStride
    copyRows src srcStride srcBaseOffset dstStride dstBaseOffset n (i + 1) dst

/-- What the function hands to the application for a frame in NV12 or NV21. The memory that it asks for is there or
not; if it is not for the frame's own buffer, `fresh` is what it holds. -/
def sendPreviewCallback (mp : Nat → PlaneInfo) (dim : Dimension) (frame : List UInt8) (memory : Bool)
    (fresh : Nat → UInt8) : Option (Option (List UInt8)) := do
  let y := mp 0
  let uv := mp 1
  let ySizeToApp ← int (dim.width * dim.height)
  let uvSizeToApp ← int (dim.width * (dim.height / 2))
  let previewBufSize ← int (ySizeToApp + uvSizeToApp)
  let ySize ← int (y.stride * y.scanline)
  let uvSize ← int (uv.stride * uv.scanline)
  let previewBufSizeFromCallback ← int (ySize + uvSize)
  if previewBufSize = previewBufSizeFromCallback then
    some (if memory ∧ previewBufSize ≠ 0 then some (frame.take previewBufSize) else none)
  else if memory then do
    let dataToApp := (List.range previewBufSize).map fresh
    let dataToApp ← copyRows frame y.stride 0 dim.width 0 dim.height 0 dataToApp
    let dataToApp ← copyRows frame uv.stride ySize dim.width ySizeToApp (dim.height / 2) 0 dataToApp
    some (some dataToApp)
  else some none

structure Preview where
  info : StreamInfo
  dim : Dimension
  padding : PaddingInfo
  layout : Layout
  before : BufPlanes
  frame : List UInt8
  laid_out : previewNv12 info dim padding = some layout
  width_pos : 0 < dim.width
  height_pos : 0 < dim.height
  frame_size : frame.length = layout.frameLen

def Preview.mp (p : Preview) : Nat → PlaneInfo := (p.layout.writeTo p.before).mp

/-- Rows of a plane that starts at `start`, without what pads them. -/
def rows (frame : List UInt8) (start stride width : Nat) : Nat → Nat → List UInt8
  | _, 0 => []
  | i, n + 1 => (frame.drop (i * stride + start)).take width ++ rows frame start stride width (i + 1) n

def Preview.image (p : Preview) : List UInt8 :=
  rows p.frame 0 (p.mp 0).stride p.dim.width 0 p.dim.height ++
    rows p.frame (p.mp 0).len (p.mp 1).stride p.dim.width 0 (p.dim.height / 2)

theorem int_eq_some {n : Nat} (h : n < 2 ^ 31) : int n = some n := if_pos h

theorem length_rows {frame : List UInt8} {start stride width i n : Nat}
    (h : ∀ j, i ≤ j → j < i + n → j * stride + start + width ≤ frame.length) :
    (rows frame start stride width i n).length = n * width := by
  induction n generalizing i with
  | zero => rw [rows, Nat.zero_mul, List.length_nil]
  | succ n ih =>
    have hrow := h i (Nat.le_refl i) (by omega)
    rw [rows, List.length_append, ih fun j hj hjn => h j (by omega) (by omega), List.length_take, List.length_drop,
      Nat.add_one_mul]
    omega

theorem copyRows_eq {src : List UInt8} {srcStride srcBase width dstBase i n : Nat} {pre old : List UInt8}
    (hsrc : ∀ j, i ≤ j → j < i + n → j * srcStride + srcBase < 2 ^ 31 ∧ j * srcStride + srcBase + width ≤ src.length)
    (hpre : pre.length = i * width + dstBase) (hold : n * width ≤ old.length)
    (hdst : pre.length + old.length < 2 ^ 31) :
    copyRows src srcStride srcBase width dstBase n i (pre ++ old) =
      some (pre ++ rows src srcBase srcStride width i n ++ old.drop (n * width)) := by
  induction n generalizing i pre old with
  | zero => rw [copyRows, rows, List.append_nil, Nat.zero_mul, List.drop_zero]
  | succ n ih =>
    obtain ⟨hint, hrow⟩ := hsrc i (Nat.le_refl i) (by omega)
    rw [Nat.add_one_mul] at hold
    have hlength : ((src.drop (i * srcStride + srcBase)).take width).length = width := by
      rw [List.length_take, List.length_drop]
      omega
    have hcopy : memcpy (pre ++ old) src pre.length (i * srcStride + srcBase) width =
        some (pre ++ (src.drop (i * srcStride + srcBase)).take width ++ old.drop width) := by
      have hdrop : (pre ++ old).drop (pre.length + width) = old.drop width := by
        rw [← List.drop_drop, List.drop_left]
      rw [memcpy, if_pos ⟨hrow, by rw [List.length_append]; omega⟩, List.take_left, hdrop]
    have hnext := @ih (i + 1) (pre ++ (src.drop (i * srcStride + srcBase)).take width) (old.drop width)
      (fun j hj hjn => hsrc j (by omega) (by omega))
      (by rw [List.length_append, hlength, hpre, Nat.add_one_mul]; omega) (by rw [List.length_drop]; omega)
      (by rw [List.length_append, hlength, List.length_drop]; omega)
    rw [copyRows, int_eq_some hint, ← hpre, int_eq_some (by omega)]
    dsimp only [bind, Option.bind]
    rw [hcopy]
    dsimp only
    rw [hnext, rows, List.drop_drop, Nat.add_one_mul, Nat.add_comm width, List.append_assoc pre]

def Preview.widthPadding (p : Preview) : Nat :=
  if p.info.streamType == .offlineProc then p.padding.widthPadding else 32

def Preview.heightPadding (p : Preview) : Nat :=
  if p.info.streamType == .offlineProc then p.padding.heightPadding else 2

/-- A padding of zero, which only offline processing may have, clears what it pads. -/
def Preview.Padded (p : Preview) : Prop := 0 < p.widthPadding ∧ 0 < p.heightPadding

structure Preview.Laid (p : Preview) (stride scanline uvScanline : Nat) : Prop where
  y : p.mp 0 = ⟨stride * scanline, 0, 0, 0, stride, scanline, p.dim.width, p.dim.height⟩
  uv : p.mp 1 = ⟨stride * uvScanline, 0, 0, 0, stride, uvScanline, p.dim.width, p.dim.height / 2⟩
  y_int : stride * scanline < 2 ^ 31
  uv_int : stride * uvScanline < 2 ^ 31
  frame : p.frame.length = padToSize (stride * scanline + stride * uvScanline) 4096

theorem int_lt {x y : Nat} (h : int x = some y) : x < 2 ^ 31 := by
  by_contra hx
  rw [int, if_neg hx] at h
  cases h

theorem padToSize_of_zero (size : Nat) : padToSize size 0 = 0 := if_pos rfl

theorem preview_laid (p : Preview) :
    ∃ stride scanline uvScanline, p.Laid stride scanline uvScanline ∧
      (p.Padded → p.dim.width ≤ stride ∧ p.dim.height ≤ scanline ∧ p.dim.height / 2 ≤ uvScanline) ∧
      (¬ p.Padded → stride * scanline = 0 ∧ stride * uvScanline = 0) := by
  have h := p.laid_out
  unfold previewNv12 at h
  obtain ⟨stride, hstride, h⟩ := Option.bind_eq_some_iff.mp h
  obtain ⟨scanline, hscan, h⟩ := Option.bind_eq_some_iff.mp h
  obtain ⟨y, hy, h⟩ := Option.bind_eq_some_iff.mp h
  obtain ⟨uvScanline, huv, h⟩ := Option.bind_eq_some_iff.mp h
  obtain ⟨uv, huvp, h⟩ := Option.bind_eq_some_iff.mp h
  have hplanes := pagedLayout_planes h
  obtain ⟨_, hyInt, -⟩ := Option.bind_eq_some_iff.mp hy
  obtain ⟨_, huvInt, -⟩ := Option.bind_eq_some_iff.mp huvp
  obtain ⟨_, hsum, h⟩ := Option.bind_eq_some_iff.mp h
  obtain ⟨_, hframe, h⟩ := Option.bind_eq_some_iff.mp h
  obtain rfl := previewPlane_some hy
  obtain rfl := previewPlane_some huvp
  obtain rfl := uint_some hsum
  obtain rfl := padUint_some hframe
  have hstride : stride = padToSize p.dim.width p.widthPadding := padInt_some hstride
  have hscan : scanline = padToSize p.dim.height p.heightPadding := padInt_some hscan
  have huv : uvScanline = padToSize (p.dim.height / 2) p.heightPadding := padInt_some huv
  refine ⟨stride, scanline, uvScanline, ⟨?_, ?_, int_lt hyInt, int_lt huvInt, ?_⟩, fun hpadded => ?_, fun hpadded => ?_⟩
  · show p.layout.planes[0]?.getD _ = _
    rw [hplanes]
    rfl
  · show p.layout.planes[1]?.getD _ = _
    rw [hplanes]
    rfl
  · rw [p.frame_size, ← Option.some.inj h]
    simp
  · rw [hstride, hscan, huv]
    exact ⟨le_padToSize hpadded.1 _, le_padToSize hpadded.2 _, le_padToSize hpadded.2 _⟩
  · rcases Nat.eq_zero_or_pos p.widthPadding with hzero | hpos
    · rw [hstride, hzero, padToSize_of_zero, Nat.zero_mul, Nat.zero_mul]
      exact ⟨rfl, rfl⟩
    · have hzero : p.heightPadding = 0 := Nat.eq_zero_of_not_pos fun h => hpadded ⟨hpos, h⟩
      rw [hscan, huv, hzero, padToSize_of_zero, padToSize_of_zero, Nat.mul_zero]
      exact ⟨rfl, rfl⟩

def Preview.Packed (p : Preview) (fresh : Nat → UInt8) : Prop :=
  ∀ memory, sendPreviewCallback p.mp p.dim p.frame memory fresh =
    some (if memory then some p.image else none)

def Preview.Small (p : Preview) : Prop :=
  (p.mp 0).stride * (p.mp 0).scanline + (p.mp 1).stride * (p.mp 1).scanline < 2 ^ 31

theorem rows_tight (frame : List UInt8) (start width i n : Nat) :
    rows frame start width width i n = (frame.drop (i * width + start)).take (n * width) := by
  induction n generalizing i with
  | zero => rw [rows, Nat.zero_mul, List.take_zero]
  | succ n ih =>
    rw [rows, ih, Nat.add_one_mul n, Nat.add_comm (n * width), List.take_add, List.drop_drop, Nat.add_one_mul]
    congr 3
    omega

theorem shared_image {p : Preview} {stride scanline uvScanline : Nat} (h : p.Laid stride scanline uvScanline)
    (hwidth : p.dim.width ≤ stride) (hheight : p.dim.height ≤ scanline) (hchroma : p.dim.height / 2 ≤ uvScanline)
    (hsize : p.dim.width * p.dim.height + p.dim.width * (p.dim.height / 2) =
      stride * scanline + stride * uvScanline) :
    p.image = p.frame.take (stride * scanline + stride * uvScanline) := by
  have hpos := p.width_pos
  have hpos' := p.height_pos
  have hy : p.dim.width * p.dim.height ≤ stride * scanline := Nat.mul_le_mul hwidth hheight
  have huv : p.dim.width * (p.dim.height / 2) ≤ stride * uvScanline := Nat.mul_le_mul hwidth hchroma
  have htight : p.dim.width * p.dim.height = stride * scanline := by omega
  have hstride : stride = p.dim.width := by
    by_contra hne
    have hlt := Nat.mul_lt_mul_of_lt_of_le (Nat.lt_of_le_of_ne hwidth (Ne.symm hne)) hheight
      (Nat.lt_of_lt_of_le hpos' hheight)
    omega
  rw [Preview.image, h.y, h.uv]
  dsimp only
  rw [← hsize, ← htight, hstride, rows_tight, rows_tight, Nat.zero_mul, Nat.zero_add, Nat.zero_add, List.drop_zero,
    List.take_add, Nat.mul_comm p.dim.height, Nat.mul_comm (p.dim.height / 2)]

theorem copied_image {p : Preview} {stride scanline uvScanline : Nat} (h : p.Laid stride scanline uvScanline)
    (hwidth : p.dim.width ≤ stride) (hheight : p.dim.height ≤ scanline) (hchroma : p.dim.height / 2 ≤ uvScanline)
    (hsmall : stride * scanline + stride * uvScanline < 2 ^ 31) (fresh : Nat → UInt8) :
    ((copyRows p.frame (p.mp 0).stride 0 p.dim.width 0 p.dim.height 0
      ((List.range (p.dim.width * p.dim.height + p.dim.width * (p.dim.height / 2))).map fresh)).bind fun dst =>
        (copyRows p.frame (p.mp 1).stride ((p.mp 0).stride * (p.mp 0).scanline) p.dim.width
          (p.dim.width * p.dim.height) (p.dim.height / 2) 0 dst).bind fun dst => some (some dst)) =
      some (some p.image) := by
  have hy : p.dim.width * p.dim.height ≤ stride * scanline := Nat.mul_le_mul hwidth hheight
  have huv : p.dim.width * (p.dim.height / 2) ≤ stride * uvScanline := Nat.mul_le_mul hwidth hchroma
  have hframe : stride * scanline + stride * uvScanline ≤ p.frame.length :=
    h.frame ▸ le_padToSize (by decide) _
  -- a row of a plane ends before its next row begins, and the last one before the plane ends
  have hin : ∀ {rows lines : Nat}, rows ≤ lines → ∀ j < rows, j * stride + p.dim.width ≤ stride * lines := by
    intro rows lines hle j hj
    calc j * stride + p.dim.width ≤ j * stride + stride := Nat.add_le_add_left hwidth _
      _ = (j + 1) * stride := (Nat.add_one_mul j stride).symm
      _ ≤ lines * stride := Nat.mul_le_mul_right stride (Nat.lt_of_lt_of_le hj hle)
      _ = stride * lines := Nat.mul_comm lines stride
  have hluma : ∀ j, 0 ≤ j → j < 0 + p.dim.height →
      j * stride + 0 < 2 ^ 31 ∧ j * stride + 0 + p.dim.width ≤ p.frame.length := by
    intro j _ hj
    have hrow := hin hheight j (by omega)
    omega
  have hchroma : ∀ j, 0 ≤ j → j < 0 + p.dim.height / 2 → j * stride + stride * scanline < 2 ^ 31 ∧
      j * stride + stride * scanline + p.dim.width ≤ p.frame.length := by
    intro j _ hj
    have hrow := hin hchroma j (by omega)
    omega
  have hlength : ((List.range (p.dim.width * p.dim.height + p.dim.width * (p.dim.height / 2))).map fresh).length =
      p.dim.width * p.dim.height + p.dim.width * (p.dim.height / 2) := by simp
  have hcomm := Nat.mul_comm p.dim.height p.dim.width
  have hcomm' := Nat.mul_comm (p.dim.height / 2) p.dim.width
  set old := (List.range (p.dim.width * p.dim.height + p.dim.width * (p.dim.height / 2))).map fresh
  rw [Preview.image, h.y, h.uv]
  dsimp only
  have hfirst := @copyRows_eq p.frame stride 0 p.dim.width 0 0 p.dim.height [] old hluma (by simp) (by omega)
    (by rw [List.length_nil]; omega)
  rw [List.nil_append, List.nil_append] at hfirst
  have hrows := length_rows fun j hj hjn => (hluma j hj hjn).2
  have hsecond := @copyRows_eq p.frame stride (stride * scanline) p.dim.width (p.dim.width * p.dim.height) 0
    (p.dim.height / 2) (rows p.frame 0 stride p.dim.width 0 p.dim.height) (old.drop (p.dim.height * p.dim.width))
    hchroma (by rw [hrows]; omega) (by rw [List.length_drop]; omega) (by rw [hrows, List.length_drop]; omega)
  rw [hfirst, Option.bind_some, hsecond, Option.bind_some, List.drop_drop, List.drop_eq_nil_of_le (by omega),
    List.append_nil]

theorem send_eq {mp : Nat → PlaneInfo} {dim : Dimension}
    (hsize : dim.width * dim.height + dim.width * (dim.height / 2) < 2 ^ 31)
    (hcallback : (mp 0).stride * (mp 0).scanline + (mp 1).stride * (mp 1).scanline < 2 ^ 31) (frame : List UInt8)
    (memory : Bool) (fresh : Nat → UInt8) :
    sendPreviewCallback mp dim frame memory fresh =
      if dim.width * dim.height + dim.width * (dim.height / 2) =
          (mp 0).stride * (mp 0).scanline + (mp 1).stride * (mp 1).scanline then
        some (if memory ∧ dim.width * dim.height + dim.width * (dim.height / 2) ≠ 0 then
          some (frame.take (dim.width * dim.height + dim.width * (dim.height / 2))) else none)
      else if memory then
        (copyRows frame (mp 0).stride 0 dim.width 0 dim.height 0
          ((List.range (dim.width * dim.height + dim.width * (dim.height / 2))).map fresh)).bind fun dst =>
            (copyRows frame (mp 1).stride ((mp 0).stride * (mp 0).scanline) dim.width (dim.width * dim.height)
              (dim.height / 2) 0 dst).bind fun dst => some (some dst)
      else some none := by
  unfold sendPreviewCallback
  rw [int_eq_some (by omega : dim.width * dim.height < 2 ^ 31),
    int_eq_some (by omega : dim.width * (dim.height / 2) < 2 ^ 31)]
  dsimp only [bind, Option.bind]
  rw [int_eq_some hsize, int_eq_some (by omega : (mp 0).stride * (mp 0).scanline < 2 ^ 31),
    int_eq_some (by omega : (mp 1).stride * (mp 1).scanline < 2 ^ 31)]
  dsimp only
  rw [int_eq_some hcallback]

theorem send_some {mp : Nat → PlaneInfo} {dim : Dimension} {frame : List UInt8} {memory : Bool} {fresh : Nat → UInt8}
    {r : Option (List UInt8)} (h : sendPreviewCallback mp dim frame memory fresh = some r) :
    dim.width * dim.height + dim.width * (dim.height / 2) < 2 ^ 31 ∧
      (mp 0).stride * (mp 0).scanline + (mp 1).stride * (mp 1).scanline < 2 ^ 31 := by
  unfold sendPreviewCallback at h
  obtain ⟨_, hy, h⟩ := Option.bind_eq_some_iff.mp h
  obtain ⟨_, huv, h⟩ := Option.bind_eq_some_iff.mp h
  obtain ⟨_, hsize, h⟩ := Option.bind_eq_some_iff.mp h
  obtain ⟨_, hyFrom, h⟩ := Option.bind_eq_some_iff.mp h
  obtain ⟨_, huvFrom, h⟩ := Option.bind_eq_some_iff.mp h
  obtain ⟨_, hcallback, -⟩ := Option.bind_eq_some_iff.mp h
  rw [int_some hy, int_some huv] at hsize
  rw [int_some hyFrom, int_some huvFrom] at hcallback
  exact ⟨int_lt hsize, int_lt hcallback⟩

theorem Preview.Laid.sizes {p : Preview} {stride scanline uvScanline : Nat} (h : p.Laid stride scanline uvScanline) :
    (p.mp 0).stride * (p.mp 0).scanline + (p.mp 1).stride * (p.mp 1).scanline =
      stride * scanline + stride * uvScanline := by rw [h.y, h.uv]

theorem packed_of_small {p : Preview} (hsmall : p.Small) (hpad : p.Padded) (fresh : Nat → UInt8) : p.Packed fresh := by
  intro memory
  obtain ⟨stride, scanline, uvScanline, hlaid, hpadded, -⟩ := preview_laid p
  obtain ⟨hwidth, hheight, hchroma⟩ := hpadded hpad
  have hpos : 0 < p.dim.width * p.dim.height := Nat.mul_pos p.width_pos p.height_pos
  have hy : p.dim.width * p.dim.height ≤ stride * scanline := Nat.mul_le_mul hwidth hheight
  have huv : p.dim.width * (p.dim.height / 2) ≤ stride * uvScanline := Nat.mul_le_mul hwidth hchroma
  rw [Preview.Small, hlaid.sizes] at hsmall
  rw [send_eq (by omega) (by rw [hlaid.sizes]; exact hsmall), hlaid.sizes]
  by_cases hsame : p.dim.width * p.dim.height + p.dim.width * (p.dim.height / 2) =
      stride * scanline + stride * uvScanline
  · rw [if_pos hsame, hsame, ← shared_image hlaid hwidth hheight hchroma hsame]
    cases memory with
    | false => rw [if_neg fun h => Bool.false_ne_true h.1, if_neg Bool.false_ne_true]
    | true => rw [if_pos ⟨rfl, by omega⟩, if_pos rfl]
  · rw [if_neg hsame]
    cases memory with
    | false => rfl
    | true =>
      rw [if_pos rfl, if_pos rfl, copied_image hlaid hwidth hheight hchroma hsmall]

/-- Both ways of handing a frame over give the image, and the copies stay in their buffers, exactly if the planes
together are small enough and none has a padding of zero. -/
theorem preview_packed (p : Preview) (fresh : Nat → UInt8) : p.Packed fresh ↔ p.Small ∧ p.Padded := by
  obtain ⟨stride, scanline, uvScanline, hlaid, hpadded, hcleared⟩ := preview_laid p
  have hpos : 0 < p.dim.width * p.dim.height := Nat.mul_pos p.width_pos p.height_pos
  constructor
  · intro h
    have hrun := h true
    obtain ⟨hsize, hcallback⟩ := send_some hrun
    refine ⟨hcallback, by_contra fun hnot => ?_⟩
    obtain ⟨hy, huv⟩ := hcleared hnot
    have hframe : p.frame = [] := by
      rw [← List.length_eq_zero_iff, hlaid.frame, hy, huv]
      exact padToSize_zero 4096
    obtain ⟨n, hn⟩ := Nat.exists_eq_succ_of_ne_zero (Nat.ne_of_gt p.height_pos)
    have hcopy : ∀ dst, copyRows p.frame (p.mp 0).stride 0 p.dim.width 0 (n + 1) 0 dst = none := by
      intro dst
      rw [copyRows, hframe, Nat.zero_mul, Nat.zero_mul, Nat.zero_add, int_eq_some (by decide)]
      have hfail : memcpy dst [] 0 0 p.dim.width = none := if_neg fun h => by
        have hwidth := p.width_pos
        have hread := h.1
        rw [List.length_nil] at hread
        omega
      dsimp only [bind, Option.bind]
      rw [hfail]
    rw [send_eq hsize hcallback, hlaid.sizes, hy, huv, if_neg (by omega), if_pos rfl, hn, hcopy] at hrun
    cases hrun
  · rintro ⟨hsmall, hpad⟩
    exact packed_of_small hsmall hpad fresh

def giant : Preview where
  info := ⟨.yuv420Nv21, .preview, false, 0⟩
  dim := ⟨40000, 40000⟩
  padding := ⟨32, 2, 4096⟩
  layout := ⟨[⟨1600000000, 0, 0, 0, 40000, 40000, 40000, 40000⟩, ⟨800000000, 0, 0, 0, 40000, 20000, 40000, 20000⟩],
    2400002048⟩
  before := ⟨0, fun _ => ⟨0, 0, 0, 0, 0, 0, 0, 0⟩, 0⟩
  frame := List.replicate 2400002048 0
  laid_out := rfl
  width_pos := by decide
  height_pos := by decide
  frame_size := List.length_replicate

theorem giant_preview_not_packed : ¬ giant.Packed fun _ => 0 := fun h =>
  absurd (send_some (h true)).1 (by decide)

end Wt88047.PreviewCallback
