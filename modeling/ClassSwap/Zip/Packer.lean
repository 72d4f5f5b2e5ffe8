import ClassSwap.Proofs.StoredBlocks

namespace ClassSwap.Zip

structure Packer where
  pack : Bytes → Bytes
  inflate_pack : ∀ bytes, inflate? (pack bytes) = some bytes

def Packer.storing : Packer where
  pack := deflate
  inflate_pack := inflate_deflate

end ClassSwap.Zip
