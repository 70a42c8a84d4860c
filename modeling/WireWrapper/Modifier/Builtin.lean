import WireWrapper.Modifier

/-!
# The built-in modifier table

* `builtinModifiers`   the bindings for the types that can stand in a packet: primitives and their
                       arrays, types of the Java library, of other libraries and of the server;
* `Catalog.builtin`    their catalog.
-/

namespace WireWrapper

/-- The built-in bindings. -/
def builtinModifiers : List Modifier := [
  ⟨"boolean", "boolean", "getBooleans()", false⟩,
  ⟨"byte", "byte", "getBytes()", false⟩,
  ⟨"short", "short", "getShorts()", false⟩,
  ⟨"int", "int", "getIntegers()", false⟩,
  ⟨"long", "long", "getLongs()", false⟩,
  ⟨"float", "float", "getFloat()", false⟩,
  ⟨"double", "double", "getDoubles()", false⟩,
  ⟨"byte[]", "byte[]", "getByteArrays()", false⟩,
  ⟨"short[]", "short[]", "getShortArrays()", false⟩,
  ⟨"int[]", "int[]", "getIntegerArrays()", false⟩,
  ⟨"java.lang.String", "String", "getStrings()", false⟩,
  ⟨"java.lang.String[]", "String[]", "getStringArrays()", false⟩,
  ⟨"java.util.UUID", "UUID", "getUUIDs()", false⟩,
  ⟨"java.lang.Enum", "Enum<?>", "getSpecificModifier(Enum.class)", false⟩,
  ⟨"java.util.Collection", "Collection", "getSpecificModifier(Collection.class)", false⟩,
  ⟨"java.util.List", "List<WrappedWatchableObject>", "getWatchableCollectionModifier()", false⟩,
  ⟨"java.util.Set", "Set<?>", "getSpecificModifier(Set.class)", false⟩,
  ⟨"java.util.Map", "Map<WrappedStatistic, Integer>", "getStatisticMaps()", false⟩,
  ⟨"java.security.PublicKey", "PublicKey", "getSpecificModifier(PublicKey.class)", false⟩,
  ⟨"com.mojang.authlib.GameProfile", "WrappedGameProfile", "getGameProfiles()", true⟩,
  ⟨"com.mojang.brigadier.tree.RootCommandNode",
    "RootCommandNode<?>", "getSpecificModifier(RootCommandNode.class)", false⟩,
  ⟨"com.mojang.brigadier.suggestion.Suggestions",
    "Suggestions", "getSpecificModifier(Suggestions.class)", false⟩,
  ⟨"net.md_5.bungee.api.chat.BaseComponent[]",
    "BaseComponent[]", "getSpecificModifier(BaseComponent[].class)", false⟩,
  ⟨"org.bukkit.WorldType", "WorldType", "getWorldTypeModifier()", false⟩,
  ⟨"net.minecraft.server.Block", "Material", "getBlocks()", true⟩,
  ⟨"net.minecraft.server.IBlockData", "WrappedBlockData", "getBlockData()", false⟩,
  ⟨"net.minecraft.server.IBlockData[]", "WrappedBlockData[]", "getBlockDataArrays()", false⟩,
  ⟨"net.minecraft.server.BlockPosition", "BlockPosition", "getBlockPositionModifier()", true⟩,
  ⟨"net.minecraft.server.ChunkCoordIntPair",
    "ChunkCoordIntPair", "getChunkCoordIntPairs()", true⟩,
  ⟨"net.minecraft.server.IChatBaseComponent",
    "WrappedChatComponent", "getChatComponents()", true⟩,
  ⟨"net.minecraft.server.IChatBaseComponent[]",
    "WrappedChatComponent[]", "getChatComponentArrays()", true⟩,
  ⟨"net.minecraft.server.DataWatcher", "WrappedDataWatcher", "getDataWatcherModifier()", true⟩,
  ⟨"net.minecraft.server.EnumDifficulty", "Difficulty", "getDifficulties()", false⟩,
  ⟨"net.minecraft.server.IRegistryCustom$Dimension", "int", "getDimensions()", false⟩,
  ⟨"net.minecraft.server.EntityTypes", "EntityType", "getEntityTypeModifier()", false⟩,
  ⟨"net.minecraft.server.EnumHand", "Hand", "getHands()", false⟩,
  ⟨"net.minecraft.server.PacketPlayOutGameStateChange$a", "int", "getGameStateIDs()", false⟩,
  ⟨"net.minecraft.server.ItemStack", "ItemStack", "getItemModifier()", false⟩,
  ⟨"net.minecraft.server.ItemStack[]", "ItemStack[]", "getItemArrayModifier()", false⟩,
  ⟨"net.minecraft.server.MerchantRecipeList",
    "List<MerchantRecipe>", "getMerchantRecipeLists()", false⟩,
  ⟨"net.minecraft.server.MinecraftKey", "MinecraftKey", "getMinecraftKeys()", false⟩,
  ⟨"net.minecraft.server.MobEffectList", "PotionEffectType", "getEffectTypes()", false⟩,
  ⟨"net.minecraft.server.MovingObjectPositionBlock",
    "MovingObjectPositionBlock", "getMovingBlockPositions()", false⟩,
  ⟨"net.minecraft.server.SectionPosition", "BlockPosition", "getSectionPositions()", false⟩,
  ⟨"net.minecraft.server.SectionPosition[]",
    "MultiBlockChangeInfo[]", "getMultiBlockChangeInfoArrays()", false⟩,
  ⟨"net.minecraft.server.NBTTagCompound", "NbtBase<?>", "getNbtModifier()", false⟩,
  ⟨"net.minecraft.server.ParticleParam", "WrappedParticle", "getNewParticles()", false⟩,
  ⟨"net.minecraft.server.ResourceKey", "World", "getWorldKeys()", false⟩,
  ⟨"net.minecraft.server.ServerPing", "WrappedServerPing", "getServerPings()", true⟩,
  ⟨"net.minecraft.server.SoundEffect", "Sound", "getSoundEffects()", false⟩,
  ⟨"net.minecraft.server.SoundCategory", "SoundCategory", "getSoundCategories()", false⟩,
  ⟨"net.minecraft.server.PacketPlayOutTitle$EnumTitleAction",
    "EnumWrappers.TitleAction", "getTitleActions()", false⟩,
  ⟨"net.minecraft.server.PacketPlayOutWorldBorder$EnumWorldBorderAction",
    "EnumWrappers.WorldBorderAction", "getWorldBorderActions()", false⟩,
  ⟨"net.minecraft.server.Vec3D", "Vector", "getVectors()", false⟩]

def Catalog.builtin : Except CatalogFailure Catalog := Catalog.ofEntries builtinModifiers

end WireWrapper
