import Mathlib.Data.List.Forall2
import Wt88047.MmCamera.PlaneLayout

/-! What each image format needs of its planes, and that the layouts have room for it. -/

namespace Wt88047.PlaneLayout

open Padding Superbuf

/-- The bytes of one row of a plane, how many rows it has, and how many bytes `pitchDen` units of stride are. -/
structure PlaneShape where
  rowBytes : Nat
  rows : Nat
  pitchNum : Nat
  pitchDen : Nat
  deriving DecidableEq

def PlaneShape.pitch (s : PlaneShape) (stride : Nat) : Nat := stride * s.pitchNum / s.pitchDen

def PlaneShape.bytewise (rowBytes rows : Nat) : PlaneShape := ⟨rowBytes, rows, 1, 1⟩

/-- A raw plane whose pixels are packed as `cam_types.h` says; apart from 8 bits and MIPI 10 bits the stride
counts pixels. -/
def BayerPacking.shape (packing : BayerPacking) (w h : Nat) : PlaneShape :=
  match packing with
  | .qcomRaw8Bpp | .mipiRaw8Bpp | .idealRawQcom8Bpp | .idealRawMipi8Bpp | .idealRawPlain8 => .bytewise w h
  -- 6, 5 or 4 pixels in a word of 64 bits
  | .qcomRaw10Bpp | .idealRawQcom10Bpp => ⟨(w + 5) / 6 * 8, h, 8, 6⟩
  | .qcomRaw12Bpp | .idealRawQcom12Bpp => ⟨(w + 4) / 5 * 8, h, 8, 5⟩
  | .qcomRaw14Bpp | .idealRawQcom14Bpp => ⟨(w + 3) / 4 * 8, h, 8, 4⟩
  -- four pixels in 5 bytes, two in 3, four in 7
  | .mipiRaw10Bpp | .idealRawMipi10Bpp => .bytewise ((w + 3) / 4 * 5) h
  | .mipiRaw12Bpp | .idealRawMipi12Bpp => ⟨(w + 1) / 2 * 3, h, 3, 2⟩
  | .mipiRaw14Bpp | .idealRawMipi14Bpp => ⟨(w + 3) / 4 * 7, h, 7, 4⟩
  | .idealRawPlain16At8Bpp | .idealRawPlain16At10Bpp | .idealRawPlain16At12Bpp | .idealRawPlain16At14Bpp =>
    ⟨2 * w, h, 2, 1⟩

def CamFormat.shapes (fmt : CamFormat) (dim : Dimension) : List PlaneShape :=
  let w := dim.width
  let h := dim.height
  match fmt with
  | .yuv420Nv12 | .yuv420Nv21 | .yuv420Nv21Adreno | .yuv420Nv12Venus =>
    [.bytewise w h, .bytewise (2 * (w / 2)) (h / 2)]
  | .yuv420Yv12 => [.bytewise w h, .bytewise (w / 2) (h / 2), .bytewise (w / 2) (h / 2)]
  | .yuv422Nv16 | .yuv422Nv61 => [.bytewise w h, .bytewise (2 * (w / 2)) h]
  | .yuvRaw8BitYuyv | .yuvRaw8BitYvyu | .yuvRaw8BitUyvy | .yuvRaw8BitVyuy | .jpegRaw8Bit | .metaRaw8Bit =>
    [⟨2 * w, h, 2, 1⟩]
  | .bayer packing _ => [packing.shape w h]
  | .jpeg | .metaRaw10Bit => []

def CamFormat.Admits (fmt : CamFormat) (dim : Dimension) : Prop :=
  match fmt with
  | .bayer .mipiRaw10Bpp _ | .bayer .idealRawMipi10Bpp _ => 4 ∣ dim.width
  | .bayer .mipiRaw12Bpp _ | .bayer .idealRawMipi12Bpp _ => 2 ∣ dim.width
  | _ => True

/-- The format that a calculator lays out; the one for video has no other than NV12. -/
def Calculator.format (c : Calculator) (info : StreamInfo) : CamFormat :=
  if c = .video then .yuv420Nv12 else info.fmt

def Calculator.supports (c : Calculator) (build : Build) (fmt : CamFormat) : Bool :=
  match c, fmt with
  | .preview, .yuv420Nv12 | .preview, .yuv420Nv21 | .preview, .yuv420Nv21Adreno | .preview, .yuv420Yv12
  | .preview, .yuv422Nv16 | .preview, .yuv422Nv61 => true
  | .preview, .yuv420Nv12Venus => build.venus.isSome
  | .snapshot, .yuv420Nv12 | .snapshot, .yuv420Nv21 | .snapshot, .yuv420Yv12
  | .snapshot, .yuv422Nv16 | .snapshot, .yuv422Nv61 => true
  | .video, _ => true
  | .raw, .yuvRaw8BitYuyv | .raw, .yuvRaw8BitYvyu | .raw, .yuvRaw8BitUyvy | .raw, .yuvRaw8BitVyuy
  | .raw, .jpegRaw8Bit | .raw, .metaRaw8Bit => true
  | .raw, .bayer packing _ => !(packing matches .qcomRaw14Bpp | .mipiRaw14Bpp | .idealRawQcom14Bpp
      | .idealRawMipi14Bpp | .idealRawPlain16At14Bpp)
  | _, _ => false

/-- A plane has room for the rows of its shape: they are `stride` apart, and all of them lie within `len` after
the rows in front of them. -/
structure PlaneFits (s : PlaneShape) (p : PlaneInfo) : Prop where
  row : s.rowBytes ≤ s.pitch p.stride
  rows : s.rows + p.offsetY ≤ p.scanline
  inside : p.offset + s.pitch p.stride * (p.scanline - p.offsetY) ≤ p.len

structure Layout.Fits (shapes : List PlaneShape) (l : Layout) : Prop where
  planes : List.Forall₂ PlaneFits shapes l.planes
  total : (l.planes.map (·.len)).sum ≤ l.frameLen
  pages : 4096 ∣ l.frameLen

structure WellLaid (shapes : List PlaneShape) (buf : BufPlanes) : Prop where
  count : buf.numPlanes = shapes.length
  planes : ∀ i s, shapes[i]? = some s → PlaneFits s (buf.mp i)
  total : ((List.range buf.numPlanes).map fun i => (buf.mp i).len).sum ≤ buf.frameLen
  pages : 4096 ∣ buf.frameLen

theorem Layout.writeTo_mp (l : Layout) (buf : BufPlanes) {i : Nat} (h : i < l.planes.length) :
    (l.writeTo buf).mp i = l.planes[i] := by
  simp [Layout.writeTo, h]

variable {l : Layout}

theorem Layout.Fits.wellLaid {shapes : List PlaneShape} (h : l.Fits shapes) (buf : BufPlanes) :
    WellLaid shapes (l.writeTo buf) := by
  have hlen := h.planes.length_eq
  refine ⟨hlen.symm, ?_, ?_, h.pages⟩
  · intro i s hs
    obtain ⟨hi, rfl⟩ := List.getElem?_eq_some_iff.mp hs
    rw [l.writeTo_mp buf (hlen ▸ hi)]
    exact h.planes.get hi (hlen ▸ hi)
  · have hmap : (List.range (l.writeTo buf).numPlanes).map (fun i => ((l.writeTo buf).mp i).len) =
        l.planes.map (·.len) := by
      refine List.ext_getElem (by simp [Layout.writeTo]) ?_
      intro i hi hi'
      rw [List.getElem_map, List.getElem_map, List.getElem_range, l.writeTo_mp buf (by simpa using hi')]
    rw [hmap]
    exact h.total

theorem int_some {x y : Nat} (h : int x = some y) : y = x := by
  unfold int at h
  split at h
  · exact (Option.some.inj h).symm
  · cases h

theorem uint_some {x y : Nat} (h : uint x = some y) : y = x := by
  unfold uint at h
  split at h
  · exact (Option.some.inj h).symm
  · cases h

theorem padInt_some {size padding y : Nat} (h : padInt size padding = some y) : y = padToSize size padding := by
  obtain ⟨_, -, hy⟩ := Option.bind_eq_some_iff.mp h
  exact (Option.some.inj hy).symm

theorem padUint_some {size padding y : Nat} (h : padUint size padding = some y) :
    y = padToSize size padding := by
  obtain ⟨_, -, hy⟩ := Option.bind_eq_some_iff.mp h
  exact (Option.some.inj hy).symm

variable {planes : List PlaneInfo}

theorem pagedLayout_fits {shapes : List PlaneShape} {extra : Nat}
    (h : pagedLayout planes extra = some l) (hp : List.Forall₂ PlaneFits shapes planes) :
    l.Fits shapes := by
  obtain ⟨sum, hsum, h⟩ := Option.bind_eq_some_iff.mp h
  obtain ⟨frameLen, hframe, h⟩ := Option.bind_eq_some_iff.mp h
  obtain rfl := Option.some.inj h
  obtain rfl := uint_some hsum
  obtain rfl := padUint_some hframe
  refine ⟨hp, ?_, dvd_padToSize _ 12⟩
  have hle : (planes.map (·.len)).sum + extra ≤ padToSize ((planes.map (·.len)).sum + extra) 4096 :=
    le_padToSize (by decide) _
  exact Nat.le_trans (Nat.le_add_right ..) hle

theorem pagedLayout_planes {extra : Nat} (h : pagedLayout planes extra = some l) :
    l.planes = planes := by
  obtain ⟨_, -, h⟩ := Option.bind_eq_some_iff.mp h
  obtain ⟨_, -, h⟩ := Option.bind_eq_some_iff.mp h
  exact (congrArg Layout.planes (Option.some.inj h)).symm

theorem pagedLayout_congr {planes' : List PlaneInfo} {extra : Nat}
    (h : pagedLayout planes extra = some l) (hlen : planes'.map (·.len) = planes.map (·.len)) :
    pagedLayout planes' extra = some ⟨planes', l.frameLen⟩ := by
  obtain ⟨sum, hsum, h⟩ := Option.bind_eq_some_iff.mp h
  obtain ⟨frameLen, hframe, h⟩ := Option.bind_eq_some_iff.mp h
  obtain rfl := Option.some.inj h
  refine Option.bind_eq_some_iff.mpr ⟨sum, hlen.symm ▸ hsum, ?_⟩
  exact Option.bind_eq_some_iff.mpr ⟨frameLen, hframe, rfl⟩

@[simp] theorem PlaneShape.bytewise_pitch (rowBytes rows stride : Nat) :
    (bytewise rowBytes rows).pitch stride = stride := by
  simp [bytewise, pitch]

variable {p : PlaneInfo}

theorem bytewise_fits {rowBytes rows : Nat} (hrow : rowBytes ≤ p.stride)
    (hrows : rows + p.offsetY ≤ p.scanline)
    (hin : p.offset + p.stride * (p.scanline - p.offsetY) ≤ p.len) :
    PlaneFits (.bytewise rowBytes rows) p := by
  refine ⟨?_, hrows, ?_⟩
  · rw [PlaneShape.bytewise_pitch]
    exact hrow
  · rw [PlaneShape.bytewise_pitch]
    exact hin

variable {stride scanline : Nat}

theorem previewPlane_some {width height : Nat}
    (h : previewPlane stride scanline width height = some p) :
    p = ⟨stride * scanline, 0, 0, 0, stride, scanline, width, height⟩ := by
  obtain ⟨len, hlen, h⟩ := Option.bind_eq_some_iff.mp h
  rw [← int_some hlen]
  exact (Option.some.inj h).symm

theorem previewPlane_fits {width height rowBytes rows : Nat}
    (h : previewPlane stride scanline width height = some p) (hrow : rowBytes ≤ stride)
    (hrows : rows ≤ scanline) : PlaneFits (.bytewise rowBytes rows) p := by
  obtain rfl := previewPlane_some h
  exact bytewise_fits hrow hrows (by simp)

variable {info : StreamInfo} {dim : Dimension} {padding : PaddingInfo}

theorem previewNv12_fits (hw : 0 < padding.widthPadding) (hh : 0 < padding.heightPadding)
    (h : previewNv12 info dim padding = some l) :
    l.Fits [.bytewise dim.width dim.height, .bytewise (2 * (dim.width / 2)) (dim.height / 2)] := by
  unfold previewNv12 at h
  have hwp : 0 < if info.streamType == .offlineProc then padding.widthPadding else 32 := by
    split
    · exact hw
    · decide
  have hhp : 0 < if info.streamType == .offlineProc then padding.heightPadding else 2 := by
    split
    · exact hh
    · decide
  obtain ⟨stride, hstride, h⟩ := Option.bind_eq_some_iff.mp h
  obtain ⟨scanline, hscan, h⟩ := Option.bind_eq_some_iff.mp h
  obtain ⟨y, hy, h⟩ := Option.bind_eq_some_iff.mp h
  obtain ⟨uvScanline, huv, h⟩ := Option.bind_eq_some_iff.mp h
  obtain ⟨uv, huvp, h⟩ := Option.bind_eq_some_iff.mp h
  have hwidth : dim.width ≤ stride := padInt_some hstride ▸ le_padToSize hwp _
  have hheight : dim.height ≤ scanline := padInt_some hscan ▸ le_padToSize hhp _
  have hchroma : dim.height / 2 ≤ uvScanline := padInt_some huv ▸ le_padToSize hhp _
  exact pagedLayout_fits h
    (.cons (previewPlane_fits hy hwidth hheight) (.cons (previewPlane_fits huvp (by omega) hchroma) .nil))

theorem previewNv21Adreno_fits (h : previewNv21Adreno dim = some l) :
    l.Fits [.bytewise dim.width dim.height, .bytewise (2 * (dim.width / 2)) (dim.height / 2)] := by
  unfold previewNv21Adreno at h
  obtain ⟨stride, hstride, h⟩ := Option.bind_eq_some_iff.mp h
  obtain ⟨scanline, hscan, h⟩ := Option.bind_eq_some_iff.mp h
  obtain ⟨y, hy, h⟩ := Option.bind_eq_some_iff.mp h
  obtain ⟨yLen, hyLen, h⟩ := Option.bind_eq_some_iff.mp h
  obtain ⟨uvHalf, hhalf, h⟩ := Option.bind_eq_some_iff.mp h
  obtain ⟨uvStride, huvStride, h⟩ := Option.bind_eq_some_iff.mp h
  obtain ⟨uvScanline, huvScan, h⟩ := Option.bind_eq_some_iff.mp h
  obtain ⟨uv, huv, h⟩ := Option.bind_eq_some_iff.mp h
  obtain ⟨uvLen, huvLen, h⟩ := Option.bind_eq_some_iff.mp h
  have hwidth : dim.width ≤ stride := padInt_some hstride ▸ le_padToSize (by decide) _
  have hheight : dim.height ≤ scanline := padInt_some hscan ▸ le_padToSize (by decide) _
  have hpair : dim.width / 2 ≤ uvHalf := padInt_some hhalf ▸ le_padToSize (by decide) _
  have hchroma : dim.height / 2 ≤ uvScanline := padInt_some huvScan ▸ le_padToSize (by decide) _
  have huvw : 2 * (dim.width / 2) ≤ uvStride := by
    rw [int_some huvStride]
    omega
  obtain rfl := previewPlane_some hy
  obtain rfl := previewPlane_some huv
  -- each plane is rounded up to pages of its own
  have hyRoom : stride * scanline ≤ yLen := padUint_some hyLen ▸ le_padToSize (by decide) _
  have huvRoom : uvStride * uvScanline ≤ uvLen := padUint_some huvLen ▸ le_padToSize (by decide) _
  exact pagedLayout_fits h
    (.cons (bytewise_fits hwidth hheight (by simpa using hyRoom))
      (.cons (bytewise_fits huvw hchroma (by simpa using huvRoom)) .nil))

theorem previewYv12_fits (h : previewYv12 dim = some l) :
    l.Fits [.bytewise dim.width dim.height, .bytewise (dim.width / 2) (dim.height / 2),
      .bytewise (dim.width / 2) (dim.height / 2)] := by
  unfold previewYv12 at h
  obtain ⟨stride, hstride, h⟩ := Option.bind_eq_some_iff.mp h
  obtain ⟨scanline, hscan, h⟩ := Option.bind_eq_some_iff.mp h
  obtain ⟨y, hy, h⟩ := Option.bind_eq_some_iff.mp h
  obtain ⟨cStride, hcStride, h⟩ := Option.bind_eq_some_iff.mp h
  obtain ⟨c, hc, h⟩ := Option.bind_eq_some_iff.mp h
  have hwidth : dim.width ≤ stride := padInt_some hstride ▸ le_padToSize (by decide) _
  have hheight : dim.height ≤ scanline := padInt_some hscan ▸ le_padToSize (by decide) _
  have hhalf : stride / 2 ≤ cStride := padInt_some hcStride ▸ le_padToSize (by decide) _
  have hcfits : PlaneFits (.bytewise (dim.width / 2) (dim.height / 2)) c :=
    previewPlane_fits hc (by omega) (by omega)
  exact pagedLayout_fits h (.cons (previewPlane_fits hy hwidth hheight) (.cons hcfits (.cons hcfits .nil)))

theorem previewNv16_fits (h : previewNv16 dim = some l) :
    l.Fits [.bytewise dim.width dim.height, .bytewise (2 * (dim.width / 2)) dim.height] := by
  unfold previewNv16 at h
  obtain ⟨stride, hstride, h⟩ := Option.bind_eq_some_iff.mp h
  obtain ⟨y, hy, h⟩ := Option.bind_eq_some_iff.mp h
  have hwidth : dim.width ≤ stride := padInt_some hstride ▸ le_padToSize (by decide) _
  exact pagedLayout_fits h (.cons (previewPlane_fits hy hwidth (Nat.le_refl _))
    (.cons (previewPlane_fits hy (by omega) (Nat.le_refl _)) .nil))

structure VenusMacros.Documented (v : VenusMacros) : Prop where
  yStride : ∀ w, v.yStride w = padToSize w 128
  yScanlines : ∀ h, v.yScanlines h = padToSize h 32
  uvStride : ∀ w, v.uvStride w = padToSize w 128
  uvScanlines : ∀ h, v.uvScanlines h = padToSize ((h + 1) / 2) 16
  bufferSize : ∀ w h, ∃ extra, v.bufferSize w h =
    padToSize (v.yStride w * v.yScanlines h + v.uvStride w * v.uvScanlines h + extra) 4096

theorem venusLayout_fits {v : VenusMacros} (hv : v.Documented) (h : venusLayout v dim = some l) :
    l.Fits [.bytewise dim.width dim.height, .bytewise (2 * (dim.width / 2)) (dim.height / 2)] := by
  unfold venusLayout at h
  obtain ⟨stride, hstride, h⟩ := Option.bind_eq_some_iff.mp h
  obtain ⟨scanline, hscan, h⟩ := Option.bind_eq_some_iff.mp h
  obtain ⟨frameLen, hframe, h⟩ := Option.bind_eq_some_iff.mp h
  obtain ⟨len, hlen, h⟩ := Option.bind_eq_some_iff.mp h
  obtain ⟨uvStride, huvStride, h⟩ := Option.bind_eq_some_iff.mp h
  obtain ⟨uvScanline, huvScan, h⟩ := Option.bind_eq_some_iff.mp h
  obtain rfl := Option.some.inj h
  obtain rfl := int_some hstride
  obtain rfl := int_some hscan
  obtain rfl := uint_some hframe
  obtain rfl := int_some hlen
  obtain rfl := int_some huvStride
  obtain rfl := int_some huvScan
  have hwidth : dim.width ≤ v.yStride dim.width := hv.yStride _ ▸ le_padToSize (by decide) _
  have hheight : dim.height ≤ v.yScanlines dim.height := hv.yScanlines _ ▸ le_padToSize (by decide) _
  have huvw : dim.width ≤ v.uvStride dim.width := hv.uvStride _ ▸ le_padToSize (by decide) _
  have huvh : (dim.height + 1) / 2 ≤ v.uvScanlines dim.height := hv.uvScanlines _ ▸ le_padToSize (by decide) _
  obtain ⟨extra, hsize⟩ := hv.bufferSize dim.width dim.height
  have hroom : v.yStride dim.width * v.yScanlines dim.height + v.uvStride dim.width * v.uvScanlines dim.height +
      extra ≤ v.bufferSize dim.width dim.height := by
    rw [hsize]
    exact le_padToSize (by decide) _
  refine ⟨.cons (bytewise_fits hwidth hheight (by simp)) (.cons (bytewise_fits ?_ ?_ ?_) .nil), ?_, ?_⟩
  · show 2 * (dim.width / 2) ≤ v.uvStride dim.width
    omega
  · show dim.height / 2 + 0 ≤ v.uvScanlines dim.height
    omega
  · show 0 + v.uvStride dim.width * (v.uvScanlines dim.height - 0) ≤
      v.bufferSize dim.width dim.height - v.yStride dim.width * v.yScanlines dim.height
    rw [Nat.zero_add, Nat.sub_zero]
    omega
  · simp only [List.map_cons, List.map_nil, List.sum_cons, List.sum_nil]
    omega
  · show 4096 ∣ v.bufferSize dim.width dim.height
    rw [hsize]
    exact dvd_padToSize _ 12

theorem snapshotPlane_fits {planePadding offsetY width height rowBytes rows : Nat}
    (hp : 0 < planePadding)
    (h : snapshotPlane planePadding stride scanline offsetY width height = some p)
    (hrow : rowBytes ≤ stride) (hrows : rows + offsetY ≤ scanline)
    (hexact : 0 < offsetY → p.offset = p.stride * p.offsetY) :
    PlaneFits (.bytewise rowBytes rows) p := by
  obtain ⟨bytes, hbytes, h⟩ := Option.bind_eq_some_iff.mp h
  obtain ⟨len, hlen, h⟩ := Option.bind_eq_some_iff.mp h
  obtain ⟨start, hstart, h⟩ := Option.bind_eq_some_iff.mp h
  obtain ⟨offset, hoffset, h⟩ := Option.bind_eq_some_iff.mp h
  obtain rfl := Option.some.inj h
  obtain rfl := int_some hbytes
  have hroom : stride * scanline ≤ len := padUint_some hlen ▸ le_padToSize hp _
  have hstart' : offset = stride * offsetY := by
    rcases Nat.eq_zero_or_pos offsetY with rfl | hpos
    · rw [padUint_some hoffset, int_some hstart]
      simp
    · exact hexact hpos
  refine bytewise_fits hrow hrows ?_
  show offset + stride * (scanline - offsetY) ≤ len
  rw [hstart', ← Nat.mul_add, Nat.add_sub_cancel' (by omega)]
  exact hroom

variable {build : Build}

theorem snapshotBase_some {offsetY : Nat} (hw : 0 < padding.widthPadding)
    (hh : 0 < padding.heightPadding)
    (h : snapshotBase build dim padding = some (stride, scanline, offsetY)) :
    dim.width ≤ stride ∧ dim.height + 2 * offsetY ≤ scanline ∧ (0 < offsetY → build.aFamily = true) := by
  unfold snapshotBase at h
  split at h
  · next ha =>
    obtain ⟨padded, hpadded, h⟩ := Option.bind_eq_some_iff.mp h
    obtain ⟨doubled, hdoubled, h⟩ := Option.bind_eq_some_iff.mp h
    simp only [Option.some.injEq, Prod.mk.injEq] at h
    obtain ⟨rfl, rfl, rfl⟩ := h
    have hheight : dim.height ≤ padded := padInt_some hpadded ▸ le_padToSize (by decide) _
    have hdouble := int_some hdoubled
    exact ⟨Nat.le_refl _, by omega, fun _ => ha⟩
  · obtain ⟨s, hs, h⟩ := Option.bind_eq_some_iff.mp h
    obtain ⟨sl, hsl, h⟩ := Option.bind_eq_some_iff.mp h
    simp only [Option.some.injEq, Prod.mk.injEq] at h
    obtain ⟨rfl, rfl, rfl⟩ := h
    refine ⟨padInt_some hs ▸ le_padToSize hw _, ?_, fun h => absurd h (Nat.lt_irrefl 0)⟩
    exact padInt_some hsl ▸ le_padToSize hh _

def Layout.StartsExact (l : Layout) : Prop := ∀ p ∈ l.planes, p.offset = p.stride * p.offsetY

theorem snapshotNv12_fits (hw : 0 < padding.widthPadding) (hh : 0 < padding.heightPadding)
    (hp : 0 < padding.planePadding) (h : snapshotNv12 build info dim padding = some l)
    (hexact : build.aFamily = true → l.StartsExact) :
    l.Fits [.bytewise dim.width dim.height, .bytewise (2 * (dim.width / 2)) (dim.height / 2)] := by
  unfold snapshotNv12 at h
  obtain ⟨⟨stride, scanline, offsetY⟩, hbase, h⟩ := Option.bind_eq_some_iff.mp h
  obtain ⟨y, hy, h⟩ := Option.bind_eq_some_iff.mp h
  obtain ⟨uv, huv, h⟩ := Option.bind_eq_some_iff.mp h
  obtain ⟨plain, hplain, h⟩ := Option.bind_eq_some_iff.mp h
  obtain ⟨hstride, hscan, ha⟩ := snapshotBase_some hw hh hbase
  obtain ⟨extra, hl⟩ : ∃ extra, pagedLayout [y, uv] extra = some l := by
    split at h
    · exact ⟨_, h⟩
    · exact ⟨0, hplain.trans h⟩
  have hstarts : 0 < offsetY → ∀ p ∈ [y, uv], p.offset = p.stride * p.offsetY := by
    intro hpos
    rw [← pagedLayout_planes hl]
    exact hexact (ha hpos)
  have hyfits : PlaneFits (.bytewise dim.width dim.height) y :=
    snapshotPlane_fits hp hy hstride (by omega) fun hpos => hstarts hpos y (by simp)
  have huvfits : PlaneFits (.bytewise (2 * (dim.width / 2)) (dim.height / 2)) uv :=
    snapshotPlane_fits hp huv (by omega) (by omega) fun hpos => hstarts hpos uv (by simp)
  exact pagedLayout_fits hl (.cons hyfits (.cons huvfits .nil))

theorem snapshotYv12_fits (hw : 0 < padding.widthPadding) (hh : 0 < padding.heightPadding)
    (hp : 0 < padding.planePadding) (h : snapshotYv12 build dim padding = some l)
    (hexact : build.aFamily = true → l.StartsExact) :
    l.Fits [.bytewise dim.width dim.height, .bytewise (dim.width / 2) (dim.height / 2),
      .bytewise (dim.width / 2) (dim.height / 2)] := by
  unfold snapshotYv12 at h
  obtain ⟨⟨stride, scanline, offsetY⟩, hbase, h⟩ := Option.bind_eq_some_iff.mp h
  obtain ⟨y, hy, h⟩ := Option.bind_eq_some_iff.mp h
  obtain ⟨cStride, hcStride, h⟩ := Option.bind_eq_some_iff.mp h
  obtain ⟨c, hc, h⟩ := Option.bind_eq_some_iff.mp h
  obtain ⟨hstride, hscan, ha⟩ := snapshotBase_some hw hh hbase
  have hhalf : stride / 2 ≤ cStride := padInt_some hcStride ▸ le_padToSize (by decide) _
  have hstarts : 0 < offsetY → ∀ p ∈ [y, c, c], p.offset = p.stride * p.offsetY := by
    intro hpos
    rw [← pagedLayout_planes h]
    exact hexact (ha hpos)
  have hyfits : PlaneFits (.bytewise dim.width dim.height) y :=
    snapshotPlane_fits hp hy hstride (by omega) fun hpos => hstarts hpos y (by simp)
  have hcfits : PlaneFits (.bytewise (dim.width / 2) (dim.height / 2)) c :=
    snapshotPlane_fits hp hc (by omega) (by omega) fun hpos => hstarts hpos c (by simp)
  exact pagedLayout_fits h (.cons hyfits (.cons hcfits (.cons hcfits .nil)))

theorem snapshotNv16_fits (hw : 0 < padding.widthPadding) (hh : 0 < padding.heightPadding)
    (hp : 0 < padding.planePadding) (h : snapshotNv16 build dim padding = some l)
    (hexact : build.aFamily = true → l.StartsExact) :
    l.Fits [.bytewise dim.width dim.height, .bytewise (2 * (dim.width / 2)) dim.height] := by
  unfold snapshotNv16 at h
  obtain ⟨⟨stride, scanline, offsetY⟩, hbase, h⟩ := Option.bind_eq_some_iff.mp h
  obtain ⟨y, hy, h⟩ := Option.bind_eq_some_iff.mp h
  obtain ⟨hstride, hscan, ha⟩ := snapshotBase_some hw hh hbase
  have hstarts : 0 < offsetY → y.offset = y.stride * y.offsetY := by
    intro hpos
    refine hexact (ha hpos) y ?_
    rw [pagedLayout_planes h]
    simp
  have hyfits : PlaneFits (.bytewise dim.width dim.height) y :=
    snapshotPlane_fits hp hy hstride (by omega) hstarts
  have huvfits : PlaneFits (.bytewise (2 * (dim.width / 2)) dim.height) y :=
    snapshotPlane_fits hp hy (by omega) (by omega) hstarts
  exact pagedLayout_fits h (.cons hyfits (.cons huvfits .nil))

theorem PlaneShape.pitch_mul {s : PlaneShape} (hpos : 0 < s.pitchDen) (h : s.pitchDen ∣ stride)
    (rows : Nat) : s.pitch stride * rows = stride * rows * s.pitchNum / s.pitchDen := by
  obtain ⟨k, rfl⟩ := h
  have hpitch : s.pitchDen * k * s.pitchNum / s.pitchDen = k * s.pitchNum := by
    rw [Nat.mul_assoc, Nat.mul_div_cancel_left _ hpos]
  have hbytes : s.pitchDen * k * rows * s.pitchNum = s.pitchDen * (k * s.pitchNum * rows) := by
    rw [Nat.mul_assoc, Nat.mul_assoc, Nat.mul_assoc k, Nat.mul_comm rows, ← Nat.mul_assoc k, Nat.mul_assoc]
  rw [PlaneShape.pitch, hpitch, hbytes, Nat.mul_div_cancel_left _ hpos]

theorem rawPlane_fits {s : PlaneShape} {bytes : Nat} (hp : 0 < padding.planePadding)
    (h : rawPlane stride bytes dim padding = some l) (hrow : s.rowBytes ≤ s.pitch stride)
    (hrows : s.rows = dim.height) (hbytes : bytes = s.pitch stride * dim.height) : l.Fits [s] := by
  obtain ⟨len, hlen, h⟩ := Option.bind_eq_some_iff.mp h
  obtain ⟨width, hwidth, h⟩ := Option.bind_eq_some_iff.mp h
  have hroom : bytes ≤ len := padUint_some hlen ▸ le_padToSize hp _
  refine pagedLayout_fits h (.cons ⟨hrow, Nat.le_of_eq hrows, ?_⟩ .nil)
  show 0 + s.pitch stride * (dim.height - 0) ≤ len
  rw [Nat.zero_add, Nat.sub_zero, ← hbytes]
  exact hroom

theorem rawYuv_fits (hp : 0 < padding.planePadding) (h : rawYuv dim padding = some l) :
    l.Fits [⟨2 * dim.width, dim.height, 2, 1⟩] := by
  obtain ⟨stride, hstride, h⟩ := Option.bind_eq_some_iff.mp h
  obtain ⟨bytes, hbytes, h⟩ := Option.bind_eq_some_iff.mp h
  have hwidth : dim.width ≤ stride := padInt_some hstride ▸ le_padToSize (by decide) _
  refine rawPlane_fits hp h ?_ rfl ?_
  · show 2 * dim.width ≤ stride * 2 / 1
    omega
  · rw [PlaneShape.pitch_mul (Nat.zero_lt_succ _) (Nat.one_dvd _), int_some hbytes, Nat.div_one]

theorem raw8Bpp_fits (hp : 0 < padding.planePadding) (h : raw8Bpp dim padding = some l) :
    l.Fits [.bytewise dim.width dim.height] := by
  obtain ⟨stride, hstride, h⟩ := Option.bind_eq_some_iff.mp h
  obtain ⟨bytes, hbytes, h⟩ := Option.bind_eq_some_iff.mp h
  have hwidth : dim.width ≤ stride := padInt_some hstride ▸ le_padToSize (by decide) _
  refine rawPlane_fits hp h ?_ rfl ?_
  · rw [PlaneShape.bytewise_pitch]
    exact hwidth
  · rw [PlaneShape.bytewise_pitch, int_some hbytes]

theorem rawQcom10Bpp_fits (hp : 0 < padding.planePadding) (h : rawQcom10Bpp dim padding = some l) :
    l.Fits [⟨(dim.width + 5) / 6 * 8, dim.height, 8, 6⟩] := by
  obtain ⟨rounded, hrounded, h⟩ := Option.bind_eq_some_iff.mp h
  obtain rfl := int_some hrounded
  obtain ⟨bits, hbits, h⟩ := Option.bind_eq_some_iff.mp h
  have hunits : 6 ∣ (dim.width + 11) / 12 * 12 := Dvd.dvd.mul_left (by decide) _
  refine rawPlane_fits hp h ?_ rfl ?_
  · show (dim.width + 5) / 6 * 8 ≤ (dim.width + 11) / 12 * 12 * 8 / 6
    omega
  · rw [PlaneShape.pitch_mul (Nat.zero_lt_succ _) hunits, int_some hbits]

theorem rawQcom12Bpp_fits (hp : 0 < padding.planePadding) (h : rawQcom12Bpp dim padding = some l) :
    l.Fits [⟨(dim.width + 4) / 5 * 8, dim.height, 8, 5⟩] := by
  obtain ⟨rounded, hrounded, h⟩ := Option.bind_eq_some_iff.mp h
  obtain rfl := int_some hrounded
  obtain ⟨bits, hbits, h⟩ := Option.bind_eq_some_iff.mp h
  have hunits : 5 ∣ (dim.width + 9) / 10 * 10 := Dvd.dvd.mul_left (by decide) _
  refine rawPlane_fits hp h ?_ rfl ?_
  · show (dim.width + 4) / 5 * 8 ≤ (dim.width + 9) / 10 * 10 * 8 / 5
    omega
  · rw [PlaneShape.pitch_mul (Nat.zero_lt_succ _) hunits, int_some hbits]

/-- The row is rounded down before it is padded, which only a width of whole groups of pixels allows. -/
theorem rawMipi10Bpp_fits (hp : 0 < padding.planePadding) (hw : 4 ∣ dim.width)
    (h : rawMipi10Bpp dim padding = some l) :
    l.Fits [.bytewise ((dim.width + 3) / 4 * 5) dim.height] := by
  obtain ⟨fives, hfives, h⟩ := Option.bind_eq_some_iff.mp h
  obtain rfl := int_some hfives
  obtain ⟨stride, hstride, h⟩ := Option.bind_eq_some_iff.mp h
  obtain ⟨bytes, hbytes, h⟩ := Option.bind_eq_some_iff.mp h
  have hwidth : dim.width * 5 / 4 ≤ stride := padInt_some hstride ▸ le_padToSize (by decide) _
  refine rawPlane_fits hp h ?_ rfl ?_
  · rw [PlaneShape.bytewise_pitch]
    show (dim.width + 3) / 4 * 5 ≤ stride
    omega
  · rw [PlaneShape.bytewise_pitch, int_some hbytes]

theorem rawMipi12Bpp_fits (hp : 0 < padding.planePadding) (h : rawMipi12Bpp dim padding = some l) :
    l.Fits [⟨(dim.width + 1) / 2 * 3, dim.height, 3, 2⟩] := by
  obtain ⟨stride, hstride, h⟩ := Option.bind_eq_some_iff.mp h
  obtain ⟨threes, hthrees, h⟩ := Option.bind_eq_some_iff.mp h
  have hwidth : dim.width ≤ stride := padInt_some hstride ▸ le_padToSize (by decide) _
  have hwhole : 32 ∣ stride := padInt_some hstride ▸ dvd_padToSize _ 5
  refine rawPlane_fits hp h ?_ rfl ?_
  · show (dim.width + 1) / 2 * 3 ≤ stride * 3 / 2
    omega
  · rw [PlaneShape.pitch_mul (Nat.zero_lt_succ _) (Nat.dvd_trans (show 2 ∣ 32 by decide) hwhole), int_some hthrees]

theorem rawPlain16_fits (hp : 0 < padding.planePadding) (h : rawPlain16 dim padding = some l) :
    l.Fits [⟨2 * dim.width, dim.height, 2, 1⟩] := by
  obtain ⟨stride, hstride, h⟩ := Option.bind_eq_some_iff.mp h
  obtain ⟨bytes, hbytes, h⟩ := Option.bind_eq_some_iff.mp h
  have hwidth : dim.width ≤ stride := padInt_some hstride ▸ le_padToSize (by decide) _
  refine rawPlane_fits hp h ?_ rfl ?_
  · show 2 * dim.width ≤ stride * 2 / 1
    omega
  · rw [PlaneShape.pitch_mul (Nat.zero_lt_succ _) (Nat.one_dvd _), int_some hbytes, Nat.div_one]

structure PaddingInfo.Positive (padding : PaddingInfo) : Prop where
  width : 0 < padding.widthPadding
  height : 0 < padding.heightPadding
  plane : 0 < padding.planePadding

theorem previewLayout_fits (hv : ∀ v ∈ build.venus, v.Documented) (hp : padding.Positive)
    (hs : Calculator.supports .preview build info.fmt = true) :
    ∃ r, previewLayout build info dim padding = some r ∧ ∀ l, r = some l → l.Fits (info.fmt.shapes dim) := by
  unfold previewLayout
  cases hfmt : info.fmt with
  | yuv420Nv12 => exact ⟨_, rfl, fun l h => previewNv12_fits hp.width hp.height h⟩
  | yuv420Nv21 => exact ⟨_, rfl, fun l h => previewNv12_fits hp.width hp.height h⟩
  | yuv420Nv21Adreno => exact ⟨_, rfl, fun l h => previewNv21Adreno_fits h⟩
  | yuv420Yv12 => exact ⟨_, rfl, fun l h => previewYv12_fits h⟩
  | yuv422Nv16 => exact ⟨_, rfl, fun l h => previewNv16_fits h⟩
  | yuv422Nv61 => exact ⟨_, rfl, fun l h => previewNv16_fits h⟩
  | yuv420Nv12Venus =>
    rw [hfmt] at hs
    obtain ⟨v, hvenus⟩ := Option.isSome_iff_exists.mp hs
    refine ⟨venusLayout v dim, by rw [hvenus]; rfl, fun l h => venusLayout_fits (hv v hvenus) h⟩
  | _ =>
    rw [hfmt] at hs
    cases hs

theorem snapshotLayout_fits (hp : padding.Positive)
    (hs : Calculator.supports .snapshot build info.fmt = true) :
    ∃ r, snapshotLayout build info dim padding = some r ∧
      ∀ l, r = some l → (build.aFamily = true → l.StartsExact) → l.Fits (info.fmt.shapes dim) := by
  unfold snapshotLayout
  cases hfmt : info.fmt with
  | yuv420Nv12 => exact ⟨_, rfl, fun l h => snapshotNv12_fits hp.width hp.height hp.plane h⟩
  | yuv420Nv21 => exact ⟨_, rfl, fun l h => snapshotNv12_fits hp.width hp.height hp.plane h⟩
  | yuv420Yv12 => exact ⟨_, rfl, fun l h => snapshotYv12_fits hp.width hp.height hp.plane h⟩
  | yuv422Nv16 => exact ⟨_, rfl, fun l h => snapshotNv16_fits hp.width hp.height hp.plane h⟩
  | yuv422Nv61 => exact ⟨_, rfl, fun l h => snapshotNv16_fits hp.width hp.height hp.plane h⟩
  | _ =>
    rw [hfmt] at hs
    cases hs

theorem bayerLayout_fits {packing : BayerPacking} {order : BayerOrder}
    (hp : 0 < padding.planePadding) (hw : (CamFormat.bayer packing order).Admits dim)
    (hs : Calculator.supports .raw build (.bayer packing order) = true) :
    ∃ r, bayerLayout packing dim padding = some r ∧
      ∀ l, r = some l → l.Fits [packing.shape dim.width dim.height] := by
  cases packing with
  | qcomRaw8Bpp | mipiRaw8Bpp | idealRawQcom8Bpp | idealRawMipi8Bpp | idealRawPlain8 =>
    exact ⟨_, rfl, fun l h => raw8Bpp_fits hp h⟩
  | qcomRaw10Bpp | idealRawQcom10Bpp => exact ⟨_, rfl, fun l h => rawQcom10Bpp_fits hp h⟩
  | qcomRaw12Bpp | idealRawQcom12Bpp => exact ⟨_, rfl, fun l h => rawQcom12Bpp_fits hp h⟩
  | mipiRaw10Bpp | idealRawMipi10Bpp => exact ⟨_, rfl, fun l h => rawMipi10Bpp_fits hp hw h⟩
  | mipiRaw12Bpp | idealRawMipi12Bpp => exact ⟨_, rfl, fun l h => rawMipi12Bpp_fits hp h⟩
  | idealRawPlain16At8Bpp | idealRawPlain16At10Bpp | idealRawPlain16At12Bpp =>
    exact ⟨_, rfl, fun l h => rawPlain16_fits hp h⟩
  | qcomRaw14Bpp | mipiRaw14Bpp | idealRawQcom14Bpp | idealRawMipi14Bpp | idealRawPlain16At14Bpp => cases hs

theorem rawLayout_fits {fmt : CamFormat} (hp : 0 < padding.planePadding) (hw : fmt.Admits dim)
    (hs : Calculator.supports .raw build fmt = true) :
    ∃ r, rawLayout fmt dim padding = some r ∧ ∀ l, r = some l → l.Fits (fmt.shapes dim) := by
  cases fmt with
  | yuvRaw8BitYuyv | yuvRaw8BitYvyu | yuvRaw8BitUyvy | yuvRaw8BitVyuy | jpegRaw8Bit | metaRaw8Bit =>
    exact ⟨_, rfl, fun l h => rawYuv_fits hp h⟩
  | bayer packing order => exact bayerLayout_fits hp hw hs
  | _ => cases hs

structure SamePlace (p q : PlaneInfo) : Prop where
  len : p.len = q.len
  offset : p.offset = q.offset
  offsetX : p.offsetX = q.offsetX
  offsetY : p.offsetY = q.offsetY
  stride : p.stride = q.stride
  scanline : p.scanline = q.scanline

theorem SamePlace.of_eq {q : PlaneInfo} (h : p = q) : SamePlace p q := by
  subst h
  exact ⟨rfl, rfl, rfl, rfl, rfl, rfl⟩

/-- The calculator succeeds, what it lays out fits, and the planes do not depend on what the buffer had before;
their widths and heights do not either if `sized`. -/
structure Stores (shapes : List PlaneShape) (sized : Prop) (f : BufPlanes → Option (Int × BufPlanes)) (rc : Int)
    (out : BufPlanes) : Prop where
  success : rc = 0
  wellLaid : WellLaid shapes out
  set : ∀ buf, ∃ out', f buf = some (0, out') ∧ ∀ i < out.numPlanes,
    SamePlace (out'.mp i) (out.mp i) ∧ (sized → out'.mp i = out.mp i)

variable {rc : Int}

theorem answer_some {r : Option Layout} {buf out : BufPlanes}
    (h : answer buf (some r) = some (rc, out)) :
    ∃ l, r = some l ∧ rc = 0 ∧ out = l.writeTo buf := by
  cases r with
  | none => cases h
  | some l =>
    obtain ⟨hrc, hout⟩ := Prod.mk.inj (Option.some.inj h)
    exact ⟨l, rfl, hrc.symm, hout.symm⟩

theorem answer_stores {shapes : List PlaneShape} {sized : Prop} {r : Option Layout}
    {buf out : BufPlanes} (h : answer buf (some r) = some (rc, out))
    (hfits : ∀ l, r = some l → out = l.writeTo buf → l.Fits shapes) :
    Stores shapes sized (fun buf => answer buf (some r)) rc out := by
  obtain ⟨l, rfl, rfl, rfl⟩ := answer_some h
  refine ⟨rfl, (hfits l rfl rfl).wellLaid buf, fun buf' => ⟨_, rfl, ?_⟩⟩
  intro i hi
  have heq : (l.writeTo buf').mp i = (l.writeTo buf).mp i := by
    rw [l.writeTo_mp buf hi, l.writeTo_mp buf' hi]
  exact ⟨.of_eq heq, fun _ => heq⟩

theorem videoLayout_some {old : PlaneInfo} (h : videoLayout dim old = some l) :
    l.Fits [.bytewise dim.width dim.height, .bytewise (2 * (dim.width / 2)) (dim.height / 2)] ∧
      ∃ (y uv : PlaneInfo) (frameLen : Nat), y.height = dim.height / 2 ∧ ∀ old', videoLayout dim old' =
        some ⟨[y, { uv with width := old'.width, height := old'.height }], frameLen⟩ := by
  obtain ⟨bytes, hbytes, h⟩ := Option.bind_eq_some_iff.mp h
  obtain ⟨len, hlen, h⟩ := Option.bind_eq_some_iff.mp h
  obtain ⟨uvBytes, huvBytes, h⟩ := Option.bind_eq_some_iff.mp h
  obtain ⟨uvLen, huvLen, h⟩ := Option.bind_eq_some_iff.mp h
  have hroom : bytes ≤ len := padUint_some hlen ▸ le_padToSize (by decide) _
  have huvRoom : uvBytes ≤ uvLen := padUint_some huvLen ▸ le_padToSize (by decide) _
  rw [int_some hbytes] at hroom
  rw [int_some huvBytes] at huvRoom
  have heven : 2 * (dim.width / 2) ≤ dim.width := by omega
  refine ⟨pagedLayout_fits h (.cons (bytewise_fits (Nat.le_refl _) (Nat.le_refl _) (by simpa using hroom))
    (.cons (bytewise_fits heven (Nat.le_refl _) (by simpa using huvRoom)) .nil)), ?_⟩
  refine ⟨⟨len, 0, 0, 0, dim.width, dim.height, dim.width, dim.height / 2⟩,
    ⟨uvLen, 0, 0, 0, dim.width, dim.height / 2, old.width, old.height⟩, l.frameLen, rfl, fun old' => ?_⟩
  refine Option.bind_eq_some_iff.mpr ⟨bytes, hbytes, Option.bind_eq_some_iff.mpr ⟨len, hlen, ?_⟩⟩
  refine Option.bind_eq_some_iff.mpr ⟨uvBytes, huvBytes, Option.bind_eq_some_iff.mpr ⟨uvLen, huvLen, ?_⟩⟩
  exact pagedLayout_congr h rfl

theorem calcOffsetVideo_stores {buf out : BufPlanes} (hv : ∀ v ∈ build.venus, v.Documented)
    (h : calcOffsetVideo build dim buf = some (rc, out)) :
    Stores [.bytewise dim.width dim.height, .bytewise (2 * (dim.width / 2)) (dim.height / 2)]
      (build.venus.isSome = true) (calcOffsetVideo build dim) rc out := by
  cases hvenus : build.venus with
  | some v =>
    have hcalc : calcOffsetVideo build dim = fun buf => answer buf (some (venusLayout v dim)) := by
      funext buf
      rw [calcOffsetVideo, hvenus]
    rw [hcalc] at h ⊢
    exact answer_stores h fun l hl _ => venusLayout_fits (hv v hvenus) hl
  | none =>
    have hcalc : calcOffsetVideo build dim = fun buf => answer buf (some (videoLayout dim (buf.mp 1))) := by
      funext buf
      rw [calcOffsetVideo, hvenus]
    rw [hcalc] at h ⊢
    obtain ⟨l, hl, rfl, rfl⟩ := answer_some h
    obtain ⟨hfits, y, uv, frameLen, -, hset⟩ := videoLayout_some hl
    obtain rfl := Option.some.inj (hl.symm.trans (hset _))
    refine ⟨rfl, hfits.wellLaid buf, fun buf' => ⟨_, by rw [hset]; rfl, ?_⟩⟩
    intro i hi
    refine ⟨?_, fun hno => by cases hno⟩
    match i, hi with
    | 0, _ => exact ⟨rfl, rfl, rfl, rfl, rfl, rfl⟩
    | 1, _ => exact ⟨rfl, rfl, rfl, rfl, rfl, rfl⟩

/-- Every supported layout has room for each row of each plane and for each plane in the frame, and is written
whole: apart from the sizes that the plain video layout leaves, nothing remains of the buffer's old planes. -/
theorem planes_laid_out {build : Build} {c : Calculator} {info : StreamInfo} {dim : Dimension}
    {padding : PaddingInfo} {buf out : BufPlanes} {rc : Int} (hv : ∀ v ∈ build.venus, v.Documented)
    (hp : padding.Positive) (hs : c.supports build info.fmt = true) (hw : (c.format info).Admits dim)
    (h : calcOffset build c info dim padding buf = some (rc, out))
    (hexact : c = .snapshot → build.aFamily = true →
      ∀ i < out.numPlanes, (out.mp i).offset = (out.mp i).stride * (out.mp i).offsetY) :
    Stores ((c.format info).shapes dim) (c ≠ .video ∨ build.venus.isSome = true)
      (calcOffset build c info dim padding) rc out := by
  cases c with
  | preview =>
    obtain ⟨r, hr, hfits⟩ := previewLayout_fits hv hp hs
    have hcalc : calcOffset build .preview info dim padding = fun buf => answer buf (some r) := by
      funext buf
      rw [← hr]
      rfl
    rw [hcalc] at h ⊢
    exact answer_stores h fun l hl _ => hfits l hl
  | snapshot =>
    obtain ⟨r, hr, hfits⟩ := snapshotLayout_fits hp hs
    have hcalc : calcOffset build .snapshot info dim padding = fun buf => answer buf (some r) := by
      funext buf
      rw [← hr]
      rfl
    rw [hcalc] at h ⊢
    refine answer_stores h fun l hl hout => hfits l hl ?_
    intro ha p hmem
    obtain ⟨i, hi, rfl⟩ := List.mem_iff_getElem.mp hmem
    have hstart := hexact rfl ha i (hout ▸ hi)
    rw [hout, l.writeTo_mp buf hi] at hstart
    exact hstart
  | video =>
    have hst := calcOffsetVideo_stores hv h
    refine ⟨hst.success, hst.wellLaid, fun buf' => ?_⟩
    obtain ⟨out', hout', hset⟩ := hst.set buf'
    refine ⟨out', hout', fun i hi => ⟨(hset i hi).1, fun hsized => (hset i hi).2 ?_⟩⟩
    exact hsized.resolve_left fun hno => hno rfl
  | raw =>
    obtain ⟨r, hr, hfits⟩ := rawLayout_fits hp.plane hw hs
    have hcalc : calcOffset build .raw info dim padding = fun buf => answer buf (some r) := by
      funext buf
      rw [← hr]
      rfl
    rw [hcalc] at h ⊢
    exact answer_stores h fun l hl _ => hfits l hl

def venusNv12 : VenusMacros where
  yStride := fun w => padToSize w 128
  yScanlines := fun h => padToSize h 32
  uvStride := fun w => padToSize w 128
  uvScanlines := fun h => padToSize ((h + 1) / 2) 16
  bufferSize := fun w h => padToSize (padToSize w 128 * padToSize h 32 +
    padToSize w 128 * padToSize ((h + 1) / 2) 16 + (4096 + max 16384 (8 * padToSize w 128))) 4096

theorem venusNv12_documented : venusNv12.Documented :=
  ⟨fun _ => rfl, fun _ => rfl, fun _ => rfl, fun _ => rfl, fun _ _ => ⟨_, rfl⟩⟩

def cleared : BufPlanes := ⟨0, fun _ => ⟨0, 0, 0, 0, 0, 0, 0, 0⟩, 0⟩

theorem planes_laid_out_video :
    ∃ out, calcOffset ⟨false, some venusNv12⟩ .video ⟨.yuv420Nv12, .video, false, 0⟩ ⟨1920, 1080⟩ ⟨32, 32, 4096⟩
        cleared = some (0, out) ∧ out.frameLen = 3153920 ∧
      WellLaid (CamFormat.yuv420Nv12.shapes ⟨1920, 1080⟩) out :=
  ⟨_, rfl, rfl, (@planes_laid_out ⟨false, some venusNv12⟩ .video ⟨.yuv420Nv12, .video, false, 0⟩ ⟨1920, 1080⟩
    ⟨32, 32, 4096⟩ cleared _ 0 (fun v hv => Option.some.inj hv ▸ venusNv12_documented)
    ⟨by decide, by decide, by decide⟩ rfl trivial rfl (fun h => by cases h)).wellLaid⟩

/-- Twelve pixels of a packed raw format are 12 units of stride and 16 bytes. -/
theorem raw_stride_counts_pixels : ¬ ∀ (build : Build) (c : Calculator) (info : StreamInfo) (dim : Dimension)
    (padding : PaddingInfo) (buf out : BufPlanes) (rc : Int), (∀ v ∈ build.venus, v.Documented) →
    padding.Positive → c.supports build info.fmt = true →
    calcOffset build c info dim padding buf = some (rc, out) →
    ∀ i s, ((c.format info).shapes dim)[i]? = some s → s.rowBytes ≤ (out.mp i).stride := by
  intro h
  have hrow := h ⟨false, none⟩ .raw ⟨.bayer .qcomRaw10Bpp .gbrg, .raw, false, 0⟩ ⟨12, 1⟩ ⟨32, 32, 32⟩ cleared _ 0
    (fun v hv => by cases hv) ⟨by decide, by decide, by decide⟩ rfl rfl 0 _ rfl
  exact absurd hrow (by decide)

end Wt88047.PlaneLayout
