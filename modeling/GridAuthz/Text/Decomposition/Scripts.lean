import GridAuthz.Text.Decomposition.Row

/-!
# Decompositions of letters of the other alphabets and syllabaries

The full compatibility decompositions of Unicode, one row for each run of consecutive
characters that have one.
-/

namespace GridAuthz.Text.Decomposition

/-- The rows of letters of the other alphabets and syllabaries. -/
def scripts : List Row := [
  ⟨0x374, #[[0x2B9]]⟩,
  ⟨0x37A, #[[0x20, 0x345]]⟩,
  ⟨0x37E, #[[0x3B]]⟩,
  ⟨0x384, #[[0x20, 0x301], [0x20, 0x308, 0x301], [0x391, 0x301], [0xB7], [0x395, 0x301],
    [0x397, 0x301], [0x399, 0x301]]⟩,
  ⟨0x38C, #[[0x39F, 0x301]]⟩,
  ⟨0x38E, #[[0x3A5, 0x301], [0x3A9, 0x301], [0x3B9, 0x308, 0x301]]⟩,
  ⟨0x3AA, #[[0x399, 0x308], [0x3A5, 0x308], [0x3B1, 0x301], [0x3B5, 0x301], [0x3B7, 0x301],
    [0x3B9, 0x301], [0x3C5, 0x308, 0x301]]⟩,
  ⟨0x3CA, #[[0x3B9, 0x308], [0x3C5, 0x308], [0x3BF, 0x301], [0x3C5, 0x301], [0x3C9, 0x301]]⟩,
  ⟨0x3D0, #[[0x3B2], [0x3B8], [0x3A5], [0x3A5, 0x301], [0x3A5, 0x308], [0x3C6], [0x3C0]]⟩,
  ⟨0x3F0, #[[0x3BA], [0x3C1], [0x3C2]]⟩,
  ⟨0x3F4, #[[0x398], [0x3B5]]⟩,
  ⟨0x3F9, #[[0x3A3]]⟩,
  ⟨0x400, #[[0x415, 0x300], [0x415, 0x308]]⟩,
  ⟨0x403, #[[0x413, 0x301]]⟩,
  ⟨0x407, #[[0x406, 0x308]]⟩,
  ⟨0x40C, #[[0x41A, 0x301], [0x418, 0x300], [0x423, 0x306]]⟩,
  ⟨0x419, #[[0x418, 0x306]]⟩,
  ⟨0x439, #[[0x438, 0x306]]⟩,
  ⟨0x450, #[[0x435, 0x300], [0x435, 0x308]]⟩,
  ⟨0x453, #[[0x433, 0x301]]⟩,
  ⟨0x457, #[[0x456, 0x308]]⟩,
  ⟨0x45C, #[[0x43A, 0x301], [0x438, 0x300], [0x443, 0x306]]⟩,
  ⟨0x476, #[[0x474, 0x30F], [0x475, 0x30F]]⟩,
  ⟨0x4C1, #[[0x416, 0x306], [0x436, 0x306]]⟩,
  ⟨0x4D0, #[[0x410, 0x306], [0x430, 0x306], [0x410, 0x308], [0x430, 0x308]]⟩,
  ⟨0x4D6, #[[0x415, 0x306], [0x435, 0x306]]⟩,
  ⟨0x4DA, #[[0x4D8, 0x308], [0x4D9, 0x308], [0x416, 0x308], [0x436, 0x308], [0x417, 0x308],
    [0x437, 0x308]]⟩,
  ⟨0x4E2, #[[0x418, 0x304], [0x438, 0x304], [0x418, 0x308], [0x438, 0x308], [0x41E, 0x308],
    [0x43E, 0x308]]⟩,
  ⟨0x4EA, #[[0x4E8, 0x308], [0x4E9, 0x308], [0x42D, 0x308], [0x44D, 0x308], [0x423, 0x304],
    [0x443, 0x304], [0x423, 0x308], [0x443, 0x308], [0x423, 0x30B], [0x443, 0x30B],
    [0x427, 0x308], [0x447, 0x308]]⟩,
  ⟨0x4F8, #[[0x42B, 0x308], [0x44B, 0x308]]⟩,
  ⟨0x587, #[[0x565, 0x582]]⟩,
  ⟨0x622, #[[0x627, 0x653], [0x627, 0x654], [0x648, 0x654], [0x627, 0x655], [0x64A, 0x654]]⟩,
  ⟨0x675, #[[0x627, 0x674], [0x648, 0x674], [0x6C7, 0x674], [0x64A, 0x674]]⟩,
  ⟨0x6C0, #[[0x6D5, 0x654]]⟩,
  ⟨0x6C2, #[[0x6C1, 0x654]]⟩,
  ⟨0x6D3, #[[0x6D2, 0x654]]⟩,
  ⟨0x929, #[[0x928, 0x93C]]⟩,
  ⟨0x931, #[[0x930, 0x93C]]⟩,
  ⟨0x934, #[[0x933, 0x93C]]⟩,
  ⟨0x958, #[[0x915, 0x93C], [0x916, 0x93C], [0x917, 0x93C], [0x91C, 0x93C], [0x921, 0x93C],
    [0x922, 0x93C], [0x92B, 0x93C], [0x92F, 0x93C]]⟩,
  ⟨0x9CB, #[[0x9C7, 0x9BE], [0x9C7, 0x9D7]]⟩,
  ⟨0x9DC, #[[0x9A1, 0x9BC], [0x9A2, 0x9BC]]⟩,
  ⟨0x9DF, #[[0x9AF, 0x9BC]]⟩,
  ⟨0xA33, #[[0xA32, 0xA3C]]⟩,
  ⟨0xA36, #[[0xA38, 0xA3C]]⟩,
  ⟨0xA59, #[[0xA16, 0xA3C], [0xA17, 0xA3C], [0xA1C, 0xA3C]]⟩,
  ⟨0xA5E, #[[0xA2B, 0xA3C]]⟩,
  ⟨0xB48, #[[0xB47, 0xB56]]⟩,
  ⟨0xB4B, #[[0xB47, 0xB3E], [0xB47, 0xB57]]⟩,
  ⟨0xB5C, #[[0xB21, 0xB3C], [0xB22, 0xB3C]]⟩,
  ⟨0xB94, #[[0xB92, 0xBD7]]⟩,
  ⟨0xBCA, #[[0xBC6, 0xBBE], [0xBC7, 0xBBE], [0xBC6, 0xBD7]]⟩,
  ⟨0xC48, #[[0xC46, 0xC56]]⟩,
  ⟨0xCC0, #[[0xCBF, 0xCD5]]⟩,
  ⟨0xCC7, #[[0xCC6, 0xCD5], [0xCC6, 0xCD6]]⟩,
  ⟨0xCCA, #[[0xCC6, 0xCC2], [0xCC6, 0xCC2, 0xCD5]]⟩,
  ⟨0xD4A, #[[0xD46, 0xD3E], [0xD47, 0xD3E], [0xD46, 0xD57]]⟩,
  ⟨0xDDA, #[[0xDD9, 0xDCA]]⟩,
  ⟨0xDDC, #[[0xDD9, 0xDCF], [0xDD9, 0xDCF, 0xDCA], [0xDD9, 0xDDF]]⟩,
  ⟨0xE33, #[[0xE4D, 0xE32]]⟩,
  ⟨0xEB3, #[[0xECD, 0xEB2]]⟩,
  ⟨0xEDC, #[[0xEAB, 0xE99], [0xEAB, 0xEA1]]⟩,
  ⟨0xF0C, #[[0xF0B]]⟩,
  ⟨0xF43, #[[0xF42, 0xFB7]]⟩,
  ⟨0xF4D, #[[0xF4C, 0xFB7]]⟩,
  ⟨0xF52, #[[0xF51, 0xFB7]]⟩,
  ⟨0xF57, #[[0xF56, 0xFB7]]⟩,
  ⟨0xF5C, #[[0xF5B, 0xFB7]]⟩,
  ⟨0xF69, #[[0xF40, 0xFB5]]⟩,
  ⟨0xF73, #[[0xF71, 0xF72]]⟩,
  ⟨0xF75, #[[0xF71, 0xF74], [0xFB2, 0xF80], [0xFB2, 0xF71, 0xF80], [0xFB3, 0xF80],
    [0xFB3, 0xF71, 0xF80]]⟩,
  ⟨0xF81, #[[0xF71, 0xF80]]⟩,
  ⟨0xF93, #[[0xF92, 0xFB7]]⟩,
  ⟨0xF9D, #[[0xF9C, 0xFB7]]⟩,
  ⟨0xFA2, #[[0xFA1, 0xFB7]]⟩,
  ⟨0xFA7, #[[0xFA6, 0xFB7]]⟩,
  ⟨0xFAC, #[[0xFAB, 0xFB7]]⟩,
  ⟨0xFB9, #[[0xF90, 0xFB5]]⟩,
  ⟨0x1026, #[[0x1025, 0x102E]]⟩,
  ⟨0x10FC, #[[0x10DC]]⟩,
  ⟨0x1B06, #[[0x1B05, 0x1B35]]⟩,
  ⟨0x1B08, #[[0x1B07, 0x1B35]]⟩,
  ⟨0x1B0A, #[[0x1B09, 0x1B35]]⟩,
  ⟨0x1B0C, #[[0x1B0B, 0x1B35]]⟩,
  ⟨0x1B0E, #[[0x1B0D, 0x1B35]]⟩,
  ⟨0x1B12, #[[0x1B11, 0x1B35]]⟩,
  ⟨0x1B3B, #[[0x1B3A, 0x1B35]]⟩,
  ⟨0x1B3D, #[[0x1B3C, 0x1B35]]⟩,
  ⟨0x1B40, #[[0x1B3E, 0x1B35], [0x1B3F, 0x1B35]]⟩,
  ⟨0x1B43, #[[0x1B42, 0x1B35]]⟩,
  ⟨0x1F00, #[[0x3B1, 0x313], [0x3B1, 0x314], [0x3B1, 0x313, 0x300], [0x3B1, 0x314, 0x300],
    [0x3B1, 0x313, 0x301], [0x3B1, 0x314, 0x301], [0x3B1, 0x313, 0x342], [0x3B1, 0x314, 0x342],
    [0x391, 0x313], [0x391, 0x314], [0x391, 0x313, 0x300], [0x391, 0x314, 0x300],
    [0x391, 0x313, 0x301], [0x391, 0x314, 0x301], [0x391, 0x313, 0x342], [0x391, 0x314, 0x342],
    [0x3B5, 0x313], [0x3B5, 0x314], [0x3B5, 0x313, 0x300], [0x3B5, 0x314, 0x300],
    [0x3B5, 0x313, 0x301], [0x3B5, 0x314, 0x301]]⟩,
  ⟨0x1F18, #[[0x395, 0x313], [0x395, 0x314], [0x395, 0x313, 0x300], [0x395, 0x314, 0x300],
    [0x395, 0x313, 0x301], [0x395, 0x314, 0x301]]⟩,
  ⟨0x1F20, #[[0x3B7, 0x313], [0x3B7, 0x314], [0x3B7, 0x313, 0x300], [0x3B7, 0x314, 0x300],
    [0x3B7, 0x313, 0x301], [0x3B7, 0x314, 0x301], [0x3B7, 0x313, 0x342], [0x3B7, 0x314, 0x342],
    [0x397, 0x313], [0x397, 0x314], [0x397, 0x313, 0x300], [0x397, 0x314, 0x300],
    [0x397, 0x313, 0x301], [0x397, 0x314, 0x301], [0x397, 0x313, 0x342], [0x397, 0x314, 0x342],
    [0x3B9, 0x313], [0x3B9, 0x314], [0x3B9, 0x313, 0x300], [0x3B9, 0x314, 0x300],
    [0x3B9, 0x313, 0x301], [0x3B9, 0x314, 0x301], [0x3B9, 0x313, 0x342], [0x3B9, 0x314, 0x342],
    [0x399, 0x313], [0x399, 0x314], [0x399, 0x313, 0x300], [0x399, 0x314, 0x300],
    [0x399, 0x313, 0x301], [0x399, 0x314, 0x301], [0x399, 0x313, 0x342], [0x399, 0x314, 0x342],
    [0x3BF, 0x313], [0x3BF, 0x314], [0x3BF, 0x313, 0x300], [0x3BF, 0x314, 0x300],
    [0x3BF, 0x313, 0x301], [0x3BF, 0x314, 0x301]]⟩,
  ⟨0x1F48, #[[0x39F, 0x313], [0x39F, 0x314], [0x39F, 0x313, 0x300], [0x39F, 0x314, 0x300],
    [0x39F, 0x313, 0x301], [0x39F, 0x314, 0x301]]⟩,
  ⟨0x1F50, #[[0x3C5, 0x313], [0x3C5, 0x314], [0x3C5, 0x313, 0x300], [0x3C5, 0x314, 0x300],
    [0x3C5, 0x313, 0x301], [0x3C5, 0x314, 0x301], [0x3C5, 0x313, 0x342], [0x3C5, 0x314, 0x342]]⟩,
  ⟨0x1F59, #[[0x3A5, 0x314]]⟩,
  ⟨0x1F5B, #[[0x3A5, 0x314, 0x300]]⟩,
  ⟨0x1F5D, #[[0x3A5, 0x314, 0x301]]⟩,
  ⟨0x1F5F, #[[0x3A5, 0x314, 0x342], [0x3C9, 0x313], [0x3C9, 0x314], [0x3C9, 0x313, 0x300],
    [0x3C9, 0x314, 0x300], [0x3C9, 0x313, 0x301], [0x3C9, 0x314, 0x301], [0x3C9, 0x313, 0x342],
    [0x3C9, 0x314, 0x342], [0x3A9, 0x313], [0x3A9, 0x314], [0x3A9, 0x313, 0x300],
    [0x3A9, 0x314, 0x300], [0x3A9, 0x313, 0x301], [0x3A9, 0x314, 0x301], [0x3A9, 0x313, 0x342],
    [0x3A9, 0x314, 0x342], [0x3B1, 0x300], [0x3B1, 0x301], [0x3B5, 0x300], [0x3B5, 0x301],
    [0x3B7, 0x300], [0x3B7, 0x301], [0x3B9, 0x300], [0x3B9, 0x301], [0x3BF, 0x300],
    [0x3BF, 0x301], [0x3C5, 0x300], [0x3C5, 0x301], [0x3C9, 0x300], [0x3C9, 0x301]]⟩,
  ⟨0x1F80, #[[0x3B1, 0x313, 0x345], [0x3B1, 0x314, 0x345], [0x3B1, 0x313, 0x300, 0x345],
    [0x3B1, 0x314, 0x300, 0x345], [0x3B1, 0x313, 0x301, 0x345], [0x3B1, 0x314, 0x301, 0x345],
    [0x3B1, 0x313, 0x342, 0x345], [0x3B1, 0x314, 0x342, 0x345], [0x391, 0x313, 0x345],
    [0x391, 0x314, 0x345], [0x391, 0x313, 0x300, 0x345], [0x391, 0x314, 0x300, 0x345],
    [0x391, 0x313, 0x301, 0x345], [0x391, 0x314, 0x301, 0x345], [0x391, 0x313, 0x342, 0x345],
    [0x391, 0x314, 0x342, 0x345], [0x3B7, 0x313, 0x345], [0x3B7, 0x314, 0x345],
    [0x3B7, 0x313, 0x300, 0x345], [0x3B7, 0x314, 0x300, 0x345], [0x3B7, 0x313, 0x301, 0x345],
    [0x3B7, 0x314, 0x301, 0x345], [0x3B7, 0x313, 0x342, 0x345], [0x3B7, 0x314, 0x342, 0x345],
    [0x397, 0x313, 0x345], [0x397, 0x314, 0x345], [0x397, 0x313, 0x300, 0x345],
    [0x397, 0x314, 0x300, 0x345], [0x397, 0x313, 0x301, 0x345], [0x397, 0x314, 0x301, 0x345],
    [0x397, 0x313, 0x342, 0x345], [0x397, 0x314, 0x342, 0x345], [0x3C9, 0x313, 0x345],
    [0x3C9, 0x314, 0x345], [0x3C9, 0x313, 0x300, 0x345], [0x3C9, 0x314, 0x300, 0x345],
    [0x3C9, 0x313, 0x301, 0x345], [0x3C9, 0x314, 0x301, 0x345], [0x3C9, 0x313, 0x342, 0x345],
    [0x3C9, 0x314, 0x342, 0x345], [0x3A9, 0x313, 0x345], [0x3A9, 0x314, 0x345],
    [0x3A9, 0x313, 0x300, 0x345], [0x3A9, 0x314, 0x300, 0x345], [0x3A9, 0x313, 0x301, 0x345],
    [0x3A9, 0x314, 0x301, 0x345], [0x3A9, 0x313, 0x342, 0x345], [0x3A9, 0x314, 0x342, 0x345],
    [0x3B1, 0x306], [0x3B1, 0x304], [0x3B1, 0x300, 0x345], [0x3B1, 0x345], [0x3B1, 0x301, 0x345]]⟩,
  ⟨0x1FB6, #[[0x3B1, 0x342], [0x3B1, 0x342, 0x345], [0x391, 0x306], [0x391, 0x304],
    [0x391, 0x300], [0x391, 0x301], [0x391, 0x345], [0x20, 0x313], [0x3B9], [0x20, 0x313],
    [0x20, 0x342], [0x20, 0x308, 0x342], [0x3B7, 0x300, 0x345], [0x3B7, 0x345],
    [0x3B7, 0x301, 0x345]]⟩,
  ⟨0x1FC6, #[[0x3B7, 0x342], [0x3B7, 0x342, 0x345], [0x395, 0x300], [0x395, 0x301],
    [0x397, 0x300], [0x397, 0x301], [0x397, 0x345], [0x20, 0x313, 0x300], [0x20, 0x313, 0x301],
    [0x20, 0x313, 0x342], [0x3B9, 0x306], [0x3B9, 0x304], [0x3B9, 0x308, 0x300],
    [0x3B9, 0x308, 0x301]]⟩,
  ⟨0x1FD6, #[[0x3B9, 0x342], [0x3B9, 0x308, 0x342], [0x399, 0x306], [0x399, 0x304],
    [0x399, 0x300], [0x399, 0x301]]⟩,
  ⟨0x1FDD, #[[0x20, 0x314, 0x300], [0x20, 0x314, 0x301], [0x20, 0x314, 0x342], [0x3C5, 0x306],
    [0x3C5, 0x304], [0x3C5, 0x308, 0x300], [0x3C5, 0x308, 0x301], [0x3C1, 0x313], [0x3C1, 0x314],
    [0x3C5, 0x342], [0x3C5, 0x308, 0x342], [0x3A5, 0x306], [0x3A5, 0x304], [0x3A5, 0x300],
    [0x3A5, 0x301], [0x3A1, 0x314], [0x20, 0x308, 0x300], [0x20, 0x308, 0x301], [0x60]]⟩,
  ⟨0x1FF2, #[[0x3C9, 0x300, 0x345], [0x3C9, 0x345], [0x3C9, 0x301, 0x345]]⟩,
  ⟨0x1FF6, #[[0x3C9, 0x342], [0x3C9, 0x342, 0x345], [0x39F, 0x300], [0x39F, 0x301],
    [0x3A9, 0x300], [0x3A9, 0x301], [0x3A9, 0x345], [0x20, 0x301], [0x20, 0x314]]⟩,
  ⟨0xA69C, #[[0x44A], [0x44C]]⟩,
  ⟨0xA770, #[[0xA76F]]⟩,
  ⟨0xA7F2, #[[0x43], [0x46], [0x51]]⟩,
  ⟨0xA7F8, #[[0x126], [0x153]]⟩,
  ⟨0xAB5C, #[[0xA727], [0xAB37], [0x26B], [0xAB52]]⟩,
  ⟨0xAB69, #[[0x28D]]⟩,
  ⟨0x10781, #[[0x2D0], [0x2D1], [0xE6], [0x299], [0x253]]⟩,
  ⟨0x10787, #[[0x2A3], [0xAB66], [0x2A5], [0x2A4], [0x256], [0x257], [0x1D91], [0x258], [0x25E],
    [0x2A9], [0x264], [0x262], [0x260], [0x29B], [0x127], [0x29C], [0x267], [0x284], [0x2AA],
    [0x2AB], [0x26C], [0x1DF04], [0xA78E], [0x26E], [0x1DF05], [0x28E], [0x1DF06], [0xF8],
    [0x276], [0x277], [0x71], [0x27A], [0x1DF08], [0x27D], [0x27E], [0x280], [0x2A8], [0x2A6],
    [0xAB67], [0x2A7], [0x288], [0x2C71]]⟩,
  ⟨0x107B2, #[[0x28F], [0x2A1], [0x2A2], [0x298], [0x1C0], [0x1C1], [0x1C2], [0x1DF0A],
    [0x1DF1E]]⟩,
  ⟨0x1109A, #[[0x11099, 0x110BA]]⟩,
  ⟨0x1109C, #[[0x1109B, 0x110BA]]⟩,
  ⟨0x110AB, #[[0x110A5, 0x110BA]]⟩,
  ⟨0x1112E, #[[0x11131, 0x11127], [0x11132, 0x11127]]⟩,
  ⟨0x1134B, #[[0x11347, 0x1133E], [0x11347, 0x11357]]⟩,
  ⟨0x114BB, #[[0x114B9, 0x114BA], [0x114B9, 0x114B0]]⟩,
  ⟨0x114BE, #[[0x114B9, 0x114BD]]⟩,
  ⟨0x115BA, #[[0x115B8, 0x115AF], [0x115B9, 0x115AF]]⟩,
  ⟨0x11938, #[[0x11935, 0x11930]]⟩]

end GridAuthz.Text.Decomposition
