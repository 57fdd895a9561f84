import Floid.Wifi.Arcfour

namespace Floid.Wifi

open Lib

abbrev Block := Vector U8 16

set_option maxRecDepth 2000 in
def sboxTable : Vector U8 256 :=
  #v[ 0x63, 0x7C, 0x77, 0x7B, 0xF2, 0x6B, 0x6F, 0xC5, 0x30, 0x01, 0x67, 0x2B, 0xFE, 0xD7, 0xAB, 0x76,
    0xCA, 0x82, 0xC9, 0x7D, 0xFA, 0x59, 0x47, 0xF0, 0xAD, 0xD4, 0xA2, 0xAF, 0x9C, 0xA4, 0x72, 0xC0,
    0xB7, 0xFD, 0x93, 0x26, 0x36, 0x3F, 0xF7, 0xCC, 0x34, 0xA5, 0xE5, 0xF1, 0x71, 0xD8, 0x31, 0x15,
    0x04, 0xC7, 0x23, 0xC3, 0x18, 0x96, 0x05, 0x9A, 0x07, 0x12, 0x80, 0xE2, 0xEB, 0x27, 0xB2, 0x75,
    0x09, 0x83, 0x2C, 0x1A, 0x1B, 0x6E, 0x5A, 0xA0, 0x52, 0x3B, 0xD6, 0xB3, 0x29, 0xE3, 0x2F, 0x84,
    0x53, 0xD1, 0x00, 0xED, 0x20, 0xFC, 0xB1, 0x5B, 0x6A, 0xCB, 0xBE, 0x39, 0x4A, 0x4C, 0x58, 0xCF,
    0xD0, 0xEF, 0xAA, 0xFB, 0x43, 0x4D, 0x33, 0x85, 0x45, 0xF9, 0x02, 0x7F, 0x50, 0x3C, 0x9F, 0xA8,
    0x51, 0xA3, 0x40, 0x8F, 0x92, 0x9D, 0x38, 0xF5, 0xBC, 0xB6, 0xDA, 0x21, 0x10, 0xFF, 0xF3, 0xD2,
    0xCD, 0x0C, 0x13, 0xEC, 0x5F, 0x97, 0x44, 0x17, 0xC4, 0xA7, 0x7E, 0x3D, 0x64, 0x5D, 0x19, 0x73,
    0x60, 0x81, 0x4F, 0xDC, 0x22, 0x2A, 0x90, 0x88, 0x46, 0xEE, 0xB8, 0x14, 0xDE, 0x5E, 0x0B, 0xDB,
    0xE0, 0x32, 0x3A, 0x0A, 0x49, 0x06, 0x24, 0x5C, 0xC2, 0xD3, 0xAC, 0x62, 0x91, 0x95, 0xE4, 0x79,
    0xE7, 0xC8, 0x37, 0x6D, 0x8D, 0xD5, 0x4E, 0xA9, 0x6C, 0x56, 0xF4, 0xEA, 0x65, 0x7A, 0xAE, 0x08,
    0xBA, 0x78, 0x25, 0x2E, 0x1C, 0xA6, 0xB4, 0xC6, 0xE8, 0xDD, 0x74, 0x1F, 0x4B, 0xBD, 0x8B, 0x8A,
    0x70, 0x3E, 0xB5, 0x66, 0x48, 0x03, 0xF6, 0x0E, 0x61, 0x35, 0x57, 0xB9, 0x86, 0xC1, 0x1D, 0x9E,
    0xE1, 0xF8, 0x98, 0x11, 0x69, 0xD9, 0x8E, 0x94, 0x9B, 0x1E, 0x87, 0xE9, 0xCE, 0x55, 0x28, 0xDF,
    0x8C, 0xA1, 0x89, 0x0D, 0xBF, 0xE6, 0x42, 0x68, 0x41, 0x99, 0x2D, 0x0F, 0xB0, 0x54, 0xBB, 0x16]

def sbox (a : U8) : U8 := sboxTable.get a.toFin

def xor32 (a b : Vector U8 4) : Vector U8 4 := xorBlocks a b

def xor128 (a b : Block) : Block := xorBlocks a b

def rconTable : Vector U8 12 :=
  #v[0x01, 0x02, 0x04, 0x08, 0x10, 0x20, 0x40, 0x80, 0x1B, 0x36, 0x36, 0x36]

def nextKey (key : Block) (round : Fin 12) : Block :=
  let sboxKey := #v[sbox key[13], sbox key[14], sbox key[15], sbox key[12]]
  let key0 := xor32 #v[key[0], key[1], key[2], key[3]] sboxKey
  let key0 := key0.set 0 (key0[0] ^^^ rconTable[round])
  let key4 := xor32 #v[key[4], key[5], key[6], key[7]] key0
  let key8 := xor32 #v[key[8], key[9], key[10], key[11]] key4
  let key12 := xor32 #v[key[12], key[13], key[14], key[15]] key8
  key0 ++ key4 ++ key8 ++ key12

def byteSub (block : Block) : Block := block.map sbox

def shiftRow (block : Block) : Block :=
  #v[block[0], block[5], block[10], block[15], block[4], block[9], block[14], block[3],
    block[8], block[13], block[2], block[7], block[12], block[1], block[6], block[11]]

def mixColumn (column : Vector U8 4) : Vector U8 4 :=
  let add1b := column.map fun byte => if byte &&& 0x80 = 0x80 then (0x1B : U8) else 0
  let swapHalfs := #v[column[2], column[3], column[0], column[1]]
  let rotl := #v[column[3], column[0], column[1], column[2]]
  let masked := column.map fun byte => byte &&& 0x7F
  -- each byte is shifted before the one below it, whose top bit is clear then
  let shifted (high low : U8) : U8 := if low &&& 0x80 = 0x80 then high <<< 1 ||| 0x01 else high <<< 1
  let andf7 := #v[masked[0] <<< 1 &&& 0xFE, shifted masked[1] masked[0], shifted masked[2] masked[1],
    shifted masked[3] masked[2]]
  let add1bf7 := xor32 add1b andf7
  let rotr := xor32 column add1bf7
  let rotr := #v[rotr[1], rotr[2], rotr[3], rotr[0]]
  let temp := xor32 add1bf7 rotr
  let tempb := xor32 swapHalfs rotl
  xor32 temp tempb

def mixColumns (block : Block) : Block :=
  mixColumn #v[block[0], block[1], block[2], block[3]] ++
    mixColumn #v[block[4], block[5], block[6], block[7]] ++
    mixColumn #v[block[8], block[9], block[10], block[11]] ++
    mixColumn #v[block[12], block[13], block[14], block[15]]

def aesRound (state : Block × Block) (round : Fin 12) : Block × Block :=
  (nextKey state.1 round, xor128 (mixColumns (shiftRow (byteSub state.2))) state.1)

def aes128k128d (key data : Block) : Block :=
  let (roundKey, ciphertext) :=
    ([1, 2, 3, 4, 5, 6, 7, 8, 9] : List (Fin 12)).foldl aesRound (nextKey key 0, xor128 key data)
  xor128 (shiftRow (byteSub ciphertext)) roundKey

end Floid.Wifi
